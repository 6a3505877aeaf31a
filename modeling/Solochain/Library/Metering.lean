import Mathlib

/-!
Admission against a metered capacity.

An item is admitted when its charge still fits and is settled for at most that
charge. If every settlement pays at least a unit price for each unit the item
used, the units used by all admitted items together are bounded by the capacity.
Capacities, charges and prices live in any ordered additive monoid.
-/
namespace Metering
universe u
variable {M : Type u} [AddCommMonoid M] [PartialOrder M]

structure Item (price : M) where
  charged : M
  kept : M
  used : Nat
  kept_le : kept ≤ charged
  paid : used • price ≤ kept

/-- The settled total after all items, or `none` when one of them was refused. -/
def settle (capacity : M) [DecidableLE M] {price : M} : M → List (Item price) → Option M
  | total, [] => some total
  | total, i :: is =>
      if total + i.charged ≤ capacity then settle capacity (total + i.kept) is else none

variable [DecidableLE M] {capacity price : M}

theorem settle_eq_some_cons {total final : M} {i : Item price} {is : List (Item price)}
    (h : settle capacity total (i :: is) = some final) :
    total + i.charged ≤ capacity ∧ settle capacity (total + i.kept) is = some final := by
  rw [settle] at h
  split at h
  · exact ⟨by assumption, h⟩
  · exact absurd h (Option.some_ne_none final).symm

variable [IsOrderedAddMonoid M]

theorem final_le_capacity {total final : M} {is : List (Item price)}
    (start : total ≤ capacity) (h : settle capacity total is = some final) :
    final ≤ capacity := by
  induction is generalizing total with
  | nil => exact Option.some.inj h ▸ start
  | cons i is ih =>
      obtain ⟨fits, rest⟩ := settle_eq_some_cons h
      have kept : total + i.kept ≤ capacity :=
        le_trans (add_le_add_right i.kept_le total) fits
      exact ih kept rest

theorem final_le_capacity_cons {total final : M} {i : Item price} {is : List (Item price)}
    (h : settle capacity total (i :: is) = some final) : final ≤ capacity := by
  obtain ⟨fits, rest⟩ := settle_eq_some_cons h
  exact final_le_capacity (le_trans (add_le_add_right i.kept_le total) fits) rest

theorem used_paid {total final : M} {is : List (Item price)}
    (h : settle capacity total is = some final) :
    total + (is.map Item.used).sum • price ≤ final := by
  induction is generalizing total with
  | nil =>
      have same : total = final := Option.some.inj h
      simp [same]
  | cons i is ih =>
      obtain ⟨_, rest⟩ := settle_eq_some_cons h
      calc
        total + ((i :: is).map Item.used).sum • price
            = total + i.used • price + (is.map Item.used).sum • price := by
              rw [List.map_cons, List.sum_cons, add_nsmul, add_assoc]
        _ ≤ total + i.kept + (is.map Item.used).sum • price :=
              add_le_add_left (add_le_add_right i.paid total) _
        _ ≤ final := ih rest

theorem used_le_capacity {total final : M} {is : List (Item price)} (nonneg : 0 ≤ total)
    (nonempty : is ≠ []) (h : settle capacity total is = some final) :
    (is.map Item.used).sum • price ≤ capacity := by
  have capped : final ≤ capacity := by
    cases is with
    | nil => exact absurd rfl nonempty
    | cons i is => exact final_le_capacity_cons h
  calc (is.map Item.used).sum • price ≤ total + (is.map Item.used).sum • price :=
        le_add_of_nonneg_left nonneg
    _ ≤ final := used_paid h
    _ ≤ capacity := capped

end Metering
