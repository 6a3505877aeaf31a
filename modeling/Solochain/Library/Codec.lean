import Solochain.Library.FixedBytes

/-!
Byte codecs that read a value in front of whatever follows it.

The law is stated for every continuation, so that codecs compose.
-/
structure Codec (α : Type) where
  encode : α → Bytes
  read : Bytes → Option (α × Bytes)
  read_encode : ∀ a rest, read (encode a ++ rest) = some (a, rest)

namespace Codec
variable {α β : Type}

/-- Reads a value and ignores what is left over. -/
def decode (c : Codec α) (bytes : Bytes) : Option α := (c.read bytes).map Prod.fst

@[simp] theorem decode_encode (c : Codec α) (a : α) : c.decode (c.encode a) = some a := by
  have read := c.read_encode a []
  rw [List.append_nil] at read
  rw [decode, read, Option.map_some]

/-- There is nothing to encode, and nothing that could be read. -/
def void : Codec Empty where
  encode := Empty.elim
  read _ := none
  read_encode a _ := a.elim

def fixed (n : Nat) : Codec (FixedBytes n) where
  encode a := a.bytes
  read bytes :=
    if h : n ≤ bytes.length then
      some (⟨bytes.take n, by rw [List.length_take, Nat.min_eq_left h]⟩, bytes.drop n)
    else none
  read_encode := by
    intro a rest
    have long : n ≤ (a.bytes ++ rest).length := by
      rw [List.length_append, a.length_eq]
      exact Nat.le_add_right n _
    rw [dif_pos long, Option.some.injEq, Prod.mk.injEq]
    refine ⟨FixedBytes.ext_bytes ?_, ?_⟩
    · exact List.take_left' a.length_eq
    · exact List.drop_left' a.length_eq

def pair (c : Codec α) (d : Codec β) : Codec (α × β) where
  encode a := c.encode a.1 ++ d.encode a.2
  read bytes := do
    let (a, rest) ← c.read bytes
    let (b, rest) ← d.read rest
    some ((a, b), rest)
  read_encode := by
    intro a rest
    rw [List.append_assoc, c.read_encode]
    simp only [Option.bind_eq_bind, Option.bind_some, d.read_encode]

def iso (c : Codec α) (forth : α → β) (back : β → α) (inverse : ∀ b, forth (back b) = b) :
    Codec β where
  encode b := c.encode (back b)
  read bytes := (c.read bytes).map (Prod.map forth id)
  read_encode := by
    intro b rest
    rw [c.read_encode, Option.map_some, Prod.map_apply, inverse]
    rfl

def u32 : Codec UInt32 :=
  (fixed 4).iso (fun bytes => UInt32.ofNat bytes.toNatLE) (fun v => .ofNatLE 4 v.toNat) (by
    intro v
    rw [FixedBytes.toNatLE_ofNatLE v.toNat_lt]
    exact UInt32.ofNat_toNat)

def u64 : Codec UInt64 :=
  (fixed 8).iso (fun bytes => UInt64.ofNat bytes.toNatLE) (fun v => .ofNatLE 8 v.toNat) (by
    intro v
    rw [FixedBytes.toNatLE_ofNatLE v.toNat_lt]
    exact UInt64.ofNat_toNat)

end Codec
