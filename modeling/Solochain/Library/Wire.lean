import Mathlib.Algebra.Order.Ring.Nat
import Mathlib.Data.List.Basic
import Solochain.Library.Compact

/-!
Byte formats with exactly one encoding for each value they accept.

A format reads a value in front of whatever follows it, and the bytes it has read are
then the encoding of that value. Formats compose, so a composed format is neither
ambiguous nor malleable because its parts are not.
-/
theorem readLittleEndian_eq_some {k v : Nat} {bytes rest : Bytes}
    (h : readLittleEndian k bytes = some (v, rest)) :
    v < 256 ^ k ∧ bytes = FixedBytes.littleEndian k v ++ rest := by
  rw [readLittleEndian] at h
  split at h
  · rename_i long
    cases h
    have length : (bytes.take k).length = k := by
      rw [List.length_take, Nat.min_eq_left long]
    have below := FixedBytes.fromLittleEndian_lt (bytes.take k)
    have same := FixedBytes.littleEndian_fromLittleEndian (bytes.take k)
    rw [length] at below same
    rw [same, List.take_append_drop]
    exact ⟨below, rfl⟩
  · cases h

namespace Compact

theorem mode_littleEndian {k v : Nat} {b : UInt8} {bytes rest : Bytes}
    (same : b :: bytes = FixedBytes.littleEndian (k + 1) v ++ rest) : v % 4 = b.toNat % 4 := by
  rw [FixedBytes.littleEndian, List.cons_append, List.cons.injEq] at same
  rw [same.1, mode_head]

theorem readShifted_eq_some {k least mode n : Nat} {b : UInt8} {bytes rest : Bytes}
    (head : b.toNat % 4 = mode) (h : readShifted (k + 1) least (b :: bytes) = some (n, rest)) :
    least ≤ n ∧ 4 * n + mode < 256 ^ (k + 1) ∧
      b :: bytes = FixedBytes.littleEndian (k + 1) (4 * n + mode) ++ rest := by
  rw [readShifted, Option.bind_eq_bind, Option.bind_eq_some_iff] at h
  obtain ⟨⟨v, rest'⟩, read, shifted⟩ := h
  obtain ⟨below, same⟩ := readLittleEndian_eq_some read
  dsimp only at shifted
  split at shifted
  · rename_i large
    cases shifted
    have value : 4 * (v / 4) + mode = v := by
      have := mode_littleEndian same
      omega
    rw [value]
    exact ⟨large, below, same⟩
  · cases shifted

/-- What is read is in the shortest form. -/
theorem eq_encode_of_read {bytes rest : Bytes} {n : Nat} (h : read bytes = some (n, rest)) :
    n < 2 ^ 32 ∧ bytes = encode n ++ rest := by
  cases bytes with
  | nil => cases h
  | cons b bytes =>
      have byte := b.toNat_lt
      rw [read] at h
      split at h
      · rename_i mode
        cases h
        have value : UInt8.ofNat (4 * (b.toNat / 4)) = b := by
          rw [← UInt8.toNat_inj, UInt8.toNat_ofNat']
          omega
        rw [encode, if_pos (by omega)]
        exact ⟨by omega, by rw [FixedBytes.littleEndian, value]; rfl⟩
      · rename_i mode
        obtain ⟨large, below, same⟩ := readShifted_eq_some mode h
        rw [encode, if_neg (by omega), if_pos (by omega)]
        exact ⟨by omega, same⟩
      · rename_i mode
        obtain ⟨large, below, same⟩ := readShifted_eq_some mode h
        rw [encode, if_neg (by omega), if_neg (by omega), if_pos (by omega)]
        exact ⟨by omega, same⟩
      · rename_i zero one two
        have mode : b.toNat % 4 = 3 := by
          have zero' : ¬ b.toNat % 4 = 0 := zero
          have one' : ¬ b.toNat % 4 = 1 := one
          have two' : ¬ b.toNat % 4 = 2 := two
          omega
        rw [Option.bind_eq_bind, Option.bind_eq_some_iff] at h
        obtain ⟨⟨v, rest'⟩, read, kept⟩ := h
        obtain ⟨below, same⟩ := readLittleEndian_eq_some read
        dsimp only at kept
        split at kept
        · rename_i large
          cases kept
          have prefixByte : b = 3 := by
            rw [← UInt8.toNat_inj]
            exact show b.toNat = 3 by omega
          rw [encode, if_neg (by omega), if_neg (by omega), if_neg (by omega), prefixByte, same]
          exact ⟨below, rfl⟩
        · cases kept

end Compact

structure Wire (α : Type) where
  Valid : α → Prop
  encode : α → Bytes
  read : Bytes → Option (α × Bytes)
  read_eq_some_iff : ∀ {bytes a rest},
    read bytes = some (a, rest) ↔ Valid a ∧ bytes = encode a ++ rest

namespace Wire
variable {α β : Type} (w : Wire α) (v : Wire β)

theorem read_encode {a : α} (valid : w.Valid a) (rest : Bytes) :
    w.read (w.encode a ++ rest) = some (a, rest) :=
  w.read_eq_some_iff.mpr ⟨valid, rfl⟩

/-- Reads a value that leaves nothing over. -/
def decodeAll (bytes : Bytes) : Option α :=
  match w.read bytes with
  | some (a, []) => some a
  | _ => none

theorem decodeAll_eq_some_iff {bytes : Bytes} {a : α} :
    w.decodeAll bytes = some a ↔ w.Valid a ∧ bytes = w.encode a := by
  have whole : w.decodeAll bytes = some a ↔ w.read bytes = some (a, []) := by
    rw [decodeAll]
    split
    · rename_i b found
      rw [found, Option.some.injEq, Option.some.injEq, Prod.mk.injEq]
      exact (and_iff_left rfl).symm
    · rename_i other
      constructor
      · intro none
        cases none
      · intro found
        exact absurd found (other a)
  rw [whole, w.read_eq_some_iff, List.append_nil]

def empty : Wire Unit where
  Valid _ := True
  encode _ := []
  read bytes := some ((), bytes)
  read_eq_some_iff := by
    intro bytes a rest
    simp

def byte : Wire UInt8 where
  Valid _ := True
  encode b := [b]
  read
    | [] => none
    | b :: rest => some (b, rest)
  read_eq_some_iff := by
    intro bytes a rest
    cases bytes with
    | nil => simp
    | cons b bytes => simp

def fixed (n : Nat) : Wire (FixedBytes n) where
  Valid _ := True
  encode a := a.bytes
  read := (Codec.fixed n).read
  read_eq_some_iff := by
    intro bytes a rest
    rw [true_and]
    constructor
    · intro found
      simp only [Codec.fixed] at found
      split at found
      · cases found
        exact (List.take_append_drop n bytes).symm
      · cases found
    · intro same
      rw [same]
      exact (Codec.fixed n).read_encode a rest

def pair : Wire (α × β) where
  Valid a := w.Valid a.1 ∧ v.Valid a.2
  encode a := w.encode a.1 ++ v.encode a.2
  read bytes := do
    let (a, rest) ← w.read bytes
    let (b, rest) ← v.read rest
    some ((a, b), rest)
  read_eq_some_iff := by
    intro bytes a rest
    obtain ⟨a, b⟩ := a
    simp only [Option.bind_eq_bind, Option.bind_eq_some_iff, Prod.exists, w.read_eq_some_iff,
      v.read_eq_some_iff, Option.some.injEq, Prod.mk.injEq]
    constructor
    · intro found
      obtain ⟨a', mid, ⟨ha, rfl⟩, b', rest', ⟨hb, rfl⟩, ⟨rfl, rfl⟩, rfl⟩ := found
      exact ⟨⟨ha, hb⟩, (List.append_assoc ..).symm⟩
    · intro same
      obtain ⟨⟨ha, hb⟩, rfl⟩ := same
      exact ⟨a, _, ⟨ha, List.append_assoc ..⟩, b, rest, ⟨hb, rfl⟩, ⟨rfl, rfl⟩, rfl⟩

variable {w v}

def iso (w : Wire α) (forth : α → β) (back : β → α) (left : ∀ a, back (forth a) = a)
    (right : ∀ b, forth (back b) = b) : Wire β where
  Valid b := w.Valid (back b)
  encode b := w.encode (back b)
  read bytes := (w.read bytes).map (Prod.map forth id)
  read_eq_some_iff := by
    intro bytes b rest
    rw [← w.read_eq_some_iff, Option.map_eq_some_iff]
    constructor
    · intro found
      obtain ⟨⟨a, rest'⟩, read, same⟩ := found
      cases same
      rw [read, left]
      rfl
    · intro read
      exact ⟨_, read, by rw [Prod.map_apply, right]; rfl⟩

/-- Takes only the values that pass a test. -/
def guarded (w : Wire α) (test : α → Bool) : Wire α where
  Valid a := w.Valid a ∧ test a = true
  encode := w.encode
  read bytes := (w.read bytes).filter fun found => test found.1
  read_eq_some_iff := by
    intro bytes a rest
    rw [Option.filter_eq_some_iff, w.read_eq_some_iff, and_right_comm]

def tagged (tag : UInt8) (w : Wire α) : Wire α where
  Valid := w.Valid
  encode a := tag :: w.encode a
  read
    | [] => none
    | b :: bytes => if b = tag then w.read bytes else none
  read_eq_some_iff := by
    intro bytes a rest
    cases bytes with
    | nil => simp
    | cons b bytes =>
        rw [List.cons_append, List.cons.injEq]
        dsimp only
        split
        · rename_i same
          rw [w.read_eq_some_iff, and_iff_right same]
        · rename_i other
          constructor
          · intro none
            cases none
          · intro same
            exact absurd same.2.1 other

/-- Two formats that no input starts with both of. -/
def Apart (w : Wire α) (v : Wire β) : Prop :=
  ∀ a b rest rest', w.Valid a → v.Valid b → w.encode a ++ rest ≠ v.encode b ++ rest'

theorem apart_tagged {tag tag' : UInt8} (w : Wire α) (v : Wire β) (distinct : tag ≠ tag') :
    Apart (tagged tag w) (tagged tag' v) :=
  fun _ _ _ _ _ _ same => distinct (List.cons.inj same).1

def orElse (w : Wire α) (v : Wire β) (apart : Apart w v) : Wire (α ⊕ β) where
  Valid := Sum.elim w.Valid v.Valid
  encode := Sum.elim w.encode v.encode
  read bytes :=
    match w.read bytes with
    | some (a, rest) => some (.inl a, rest)
    | none => (v.read bytes).map (Prod.map .inr id)
  read_eq_some_iff := by
    intro bytes c rest
    split
    · rename_i a rest' found
      have first := w.read_eq_some_iff.mp found
      cases c with
      | inl a' =>
          rw [Sum.elim_inl, Sum.elim_inl, ← w.read_eq_some_iff, found, Option.some.injEq,
            Option.some.injEq, Prod.mk.injEq, Prod.mk.injEq, Sum.inl.injEq]
      | inr b =>
          constructor
          · intro same
            cases same
          · intro second
            exact absurd (first.2.symm.trans second.2) (apart a b _ _ first.1 second.1)
    · rename_i missing
      rw [Option.map_eq_some_iff]
      constructor
      · intro found
        obtain ⟨⟨b, rest'⟩, read, same⟩ := found
        cases same
        exact v.read_eq_some_iff.mp read
      · intro found
        cases c with
        | inl a =>
            rw [w.read_eq_some_iff.mpr found] at missing
            cases missing
        | inr b => exact ⟨(b, rest), v.read_eq_some_iff.mpr found, rfl⟩

theorem apart_orElse {γ : Type} {u : Wire γ} {apart : Apart w v} (left : Apart u w)
    (right : Apart u v) : Apart u (orElse w v apart) := by
  intro c ab rest rest' hc hab
  cases ab with
  | inl a => exact left c a rest rest' hc hab
  | inr b => exact right c b rest rest' hc hab

/-- The length of a vector. -/
def compact : Wire Nat where
  Valid n := n < 2 ^ 32
  encode := Compact.encode
  read := Compact.read
  read_eq_some_iff := by
    intro bytes n rest
    constructor
    · exact Compact.eq_encode_of_read
    · intro h
      rw [h.2]
      exact Compact.read_encode h.1 rest

def readMany (w : Wire α) : Nat → Bytes → Option (List α × Bytes)
  | 0, bytes => some ([], bytes)
  | n + 1, bytes => do
      let (a, rest) ← w.read bytes
      let (as, rest) ← readMany w n rest
      some (a :: as, rest)

theorem readMany_eq_some_iff (w : Wire α) {n : Nat} {bytes rest : Bytes} {as : List α} :
    w.readMany n bytes = some (as, rest) ↔
      as.length = n ∧ (∀ a ∈ as, w.Valid a) ∧ bytes = as.flatMap w.encode ++ rest := by
  induction n generalizing bytes rest as with
  | zero =>
      rw [readMany, Option.some.injEq, Prod.mk.injEq, List.length_eq_zero_iff]
      constructor
      · intro same
        obtain ⟨rfl, rfl⟩ := same
        exact ⟨rfl, fun a listed => absurd listed List.not_mem_nil, rfl⟩
      · intro same
        obtain ⟨rfl, _, rfl⟩ := same
        exact ⟨rfl, rfl⟩
  | succ n ih =>
      simp only [readMany, Option.bind_eq_bind, Option.bind_eq_some_iff, Prod.exists,
        w.read_eq_some_iff, ih, Option.some.injEq, Prod.mk.injEq]
      constructor
      · intro found
        obtain ⟨a, mid, ⟨ha, rfl⟩, as', rest', ⟨length, valid, rfl⟩, rfl, rfl⟩ := found
        refine ⟨by rw [List.length_cons, length], List.forall_mem_cons.mpr ⟨ha, valid⟩, ?_⟩
        rw [List.flatMap_cons, List.append_assoc]
      · intro same
        obtain ⟨length, valid, rfl⟩ := same
        cases as with
        | nil => cases length
        | cons a as =>
            rw [List.forall_mem_cons] at valid
            refine ⟨a, _, ⟨valid.1, ?_⟩, as, rest, ⟨Nat.succ.inj length, valid.2, rfl⟩, rfl, rfl⟩
            rw [List.flatMap_cons, List.append_assoc]

/-- A vector behind its length. -/
def list (w : Wire α) : Wire (List α) where
  Valid as := as.length < 2 ^ 32 ∧ ∀ a ∈ as, w.Valid a
  encode as := Compact.encode as.length ++ as.flatMap w.encode
  read bytes := do
    let (n, rest) ← compact.read bytes
    w.readMany n rest
  read_eq_some_iff := by
    intro bytes as rest
    simp only [Option.bind_eq_bind, Option.bind_eq_some_iff, Prod.exists,
      compact.read_eq_some_iff, w.readMany_eq_some_iff]
    constructor
    · intro found
      obtain ⟨n, mid, ⟨small, rfl⟩, rfl, valid, rfl⟩ := found
      exact ⟨⟨small, valid⟩, (List.append_assoc ..).symm⟩
    · intro same
      obtain ⟨⟨small, valid⟩, rfl⟩ := same
      exact ⟨as.length, _, ⟨small, List.append_assoc ..⟩, rfl, valid, rfl⟩

/-- A value behind the length of its encoding, which has to be the right one. -/
def sized (w : Wire α) : Wire α where
  Valid a := w.Valid a ∧ (w.encode a).length < 2 ^ 32
  encode a := Compact.encode (w.encode a).length ++ w.encode a
  read bytes := do
    let (n, rest) ← compact.read bytes
    let (a, rest') ← w.read rest
    if rest.length = n + rest'.length then some (a, rest') else none
  read_eq_some_iff := by
    intro bytes a rest
    simp only [Option.bind_eq_bind, Option.bind_eq_some_iff, Prod.exists,
      compact.read_eq_some_iff, w.read_eq_some_iff]
    constructor
    · intro found
      obtain ⟨n, mid, ⟨small, rfl⟩, a', rest', ⟨valid, rfl⟩, kept⟩ := found
      split at kept
      · rename_i length
        cases kept
        rw [List.length_append, Nat.add_right_cancel_iff] at length
        subst length
        exact ⟨⟨valid, small⟩, (List.append_assoc ..).symm⟩
      · cases kept
    · intro same
      obtain ⟨⟨valid, small⟩, rfl⟩ := same
      refine ⟨_, _, ⟨small, List.append_assoc ..⟩, a, rest, ⟨valid, rfl⟩, ?_⟩
      rw [if_pos List.length_append]

def bytes : Wire Bytes := byte.list

theorem encode_bytes (input : Bytes) :
    bytes.encode input = Compact.encode input.length ++ input :=
  congrArg _ (List.flatMap_pure_eq_map id input |>.trans (List.map_id input))

theorem valid_bytes (input : Bytes) : bytes.Valid input ↔ input.length < 2 ^ 32 :=
  and_iff_left fun _ _ => trivial

def bool : Wire Bool :=
  (orElse (tagged 0 empty) (tagged 1 empty) (apart_tagged _ _ (by decide))).iso
    (Sum.elim (fun _ => false) fun _ => true) (fun b => if b then .inr () else .inl ())
    (by intro a; cases a <;> rfl) (by intro b; cases b <;> rfl)

theorem ofNatLE_ofNat_toNatLE (bytes : FixedBytes 8) :
    FixedBytes.ofNatLE 8 (UInt64.ofNat bytes.toNatLE).toNat = bytes := by
  have small : bytes.toNatLE < 2 ^ 64 := bytes.toNatLE_lt
  rw [UInt64.toNat_ofNat', Nat.mod_eq_of_lt small]
  exact bytes.ofNatLE_toNatLE

theorem ofNat_toNatLE_ofNatLE (v : UInt64) :
    UInt64.ofNat (FixedBytes.ofNatLE 8 v.toNat).toNatLE = v := by
  rw [FixedBytes.toNatLE_ofNatLE v.toNat_lt]
  exact UInt64.ofNat_toNat

def u64 : Wire UInt64 :=
  (fixed 8).iso (fun bytes => UInt64.ofNat bytes.toNatLE) (fun v => .ofNatLE 8 v.toNat)
    ofNatLE_ofNat_toNatLE ofNat_toNatLE_ofNatLE

end Wire
