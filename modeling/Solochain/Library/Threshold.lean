import Mathlib.Tactic.Linarith
import Mathlib.Tactic.Ring
import Solochain.Library.Quorum

/-!
Thresholds of a body's votes, as shares of its seats: which of them implies which
on bodies of every size, and which two of them disjoint groups can reach.
-/
namespace Quorum
universe u
variable {α : Type u}

/-- A share that some group of some body reaches, or exceeds. -/
structure Threshold where
  num : Nat
  den : Nat
  strict : Bool
  pos : 0 < den := by decide
  room : num + strict.toNat ≤ den := by decide

namespace Threshold
variable (t t' : Threshold) {yes seats : Nat}

def Passes (yes seats : Nat) : Prop := t.num * seats + t.strict.toNat ≤ yes * t.den

/-- The first share is the larger one. -/
def Implies : Prop :=
  t'.num * t.den + (t'.strict && !t.strict).toNat ≤ t.num * t'.den

/-- Both shares have room in one body. -/
def Compatible : Prop :=
  t.num * t'.den + t'.num * t.den + (t.strict || t'.strict).toNat ≤ t.den * t'.den

instance : Decidable (t.Passes yes seats) := inferInstanceAs (Decidable (_ ≤ _))

instance : Decidable (t.Implies t') := inferInstanceAs (Decidable (_ ≤ _))

instance : Decidable (t.Compatible t') := inferInstanceAs (Decidable (_ ≤ _))

variable {t t'}

theorem Implies.passes (h : t.Implies t') (occupied : 0 < seats) (passed : t.Passes yes seats) :
    t'.Passes yes seats := by
  have scaled : t'.num * seats * t.den + ((t'.strict && !t.strict).toNat * seats
      + t.strict.toNat * t'.den) ≤ yes * t'.den * t.den := by
    calc _ = (t'.num * t.den + (t'.strict && !t.strict).toNat) * seats
          + t.strict.toNat * t'.den := by ring
      _ ≤ t.num * t'.den * seats + t.strict.toNat * t'.den :=
          Nat.add_le_add_right (Nat.mul_le_mul_right seats h) _
      _ = (t.num * seats + t.strict.toNat) * t'.den := by ring
      _ ≤ yes * t.den * t'.den := Nat.mul_le_mul_right t'.den passed
      _ = yes * t'.den * t.den := Nat.mul_right_comm ..
  rw [Passes]
  cases strict : t'.strict with
  | false => exact Nat.le_of_mul_le_mul_right ((Nat.le_add_right _ _).trans scaled) t.pos
  | true =>
      refine Nat.lt_of_mul_lt_mul_right (a := t.den) (Nat.lt_of_lt_of_le ?_ scaled)
      refine Nat.lt_add_of_pos_right ?_
      cases strict' : t.strict with
      | false => simpa [strict] using occupied
      | true => simpa using t'.pos

/-- What a smaller share lets through and the larger one does not, on a small body. -/
theorem exists_of_not_implies (h : ¬ t.Implies t') :
    ∃ yes seats, 0 < seats ∧ seats ≤ t.den + t'.den ∧ yes ≤ seats ∧
      t.Passes yes seats ∧ ¬ t'.Passes yes seats := by
  have larger := Nat.not_le.mp h
  have room := t.room
  have room' := t'.room
  cases strict : t.strict with
  | false =>
      refine ⟨t.num, t.den, t.pos, Nat.le_add_right _ _, by omega, ?_, ?_⟩
      · rw [Passes, strict]
        exact Nat.le_refl _
      · rw [strict, Bool.not_false, Bool.and_true] at larger
        exact Nat.not_le.mpr larger
  | true =>
      rw [strict, Bool.not_true, Bool.and_false] at larger
      -- The mediant lies strictly between the two shares.
      refine ⟨t.num + t'.num, t.den + t'.den, Nat.add_pos_left t.pos _, Nat.le_refl _, by omega,
        ?_, ?_⟩
      · rw [Passes, strict, Bool.toNat_true]
        have gap : t.num * t'.den + 1 ≤ t'.num * t.den := larger
        linarith [Nat.mul_add t.num t.den t'.den, Nat.add_mul t.num t'.num t.den]
      · refine Nat.not_le.mpr ?_
        have gap : t.num * t'.den < t'.num * t.den := larger
        linarith [Nat.mul_add t'.num t.den t'.den, Nat.add_mul t.num t'.num t'.den]

theorem Passes.combined {a b : Nat} (h : t.Passes a seats) (h' : t'.Passes b seats) :
    (t.num * t'.den + t'.num * t.den) * seats
      + (t.strict.toNat * t'.den + t'.strict.toNat * t.den) ≤ (a + b) * (t.den * t'.den) := by
  calc _ = (t.num * seats + t.strict.toNat) * t'.den
        + (t'.num * seats + t'.strict.toNat) * t.den := by ring
    _ ≤ a * t.den * t'.den + b * t'.den * t.den :=
        Nat.add_le_add (Nat.mul_le_mul_right _ h) (Nat.mul_le_mul_right _ h')
    _ = (a + b) * (t.den * t'.den) := by ring

theorem Passes.compatible {a b : Nat} (occupied : 0 < seats) (apart : a + b ≤ seats)
    (h : t.Passes a seats) (h' : t'.Passes b seats) : t.Compatible t' := by
  have scaled := (h.combined h').trans (Nat.mul_le_mul_right (t.den * t'.den) apart)
  rw [Nat.mul_comm seats] at scaled
  rw [Compatible]
  cases strict : (t.strict || t'.strict) with
  | false => exact Nat.le_of_mul_le_mul_right ((Nat.le_add_right _ _).trans scaled) occupied
  | true =>
      refine Nat.lt_of_mul_lt_mul_right (a := seats) (Nat.lt_of_lt_of_le ?_ scaled)
      refine Nat.lt_add_of_pos_right ?_
      obtain first | second := Bool.or_eq_true_iff.mp strict
      · rw [first, Bool.toNat_true, Nat.one_mul]
        exact Nat.add_pos_left t'.pos _
      · rw [second, Bool.toNat_true, Nat.one_mul]
        exact Nat.add_pos_right _ t.pos

/-- How many members two groups share that both reach their shares. -/
theorem Passes.overlap [DecidableEq α] {a b body : Finset α} (ha : a ⊆ body) (hb : b ⊆ body)
    (h : t.Passes a.card body.card) (h' : t'.Passes b.card body.card) :
    (t.num * t'.den + t'.num * t.den) * body.card
      ≤ (body.card + (a ∩ b).card) * (t.den * t'.den) := by
  have union : (a ∪ b).card ≤ body.card := Finset.card_le_card (Finset.union_subset ha hb)
  have split := Finset.card_union_add_card_inter a b
  refine ((Nat.le_add_right _ _).trans (h.combined h')).trans (Nat.mul_le_mul_right _ ?_)
  omega

end Threshold
end Quorum
