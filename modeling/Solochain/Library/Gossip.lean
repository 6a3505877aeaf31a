import Mathlib.Data.List.Basic

/-!
Items that spread between holders, each of them after the item it builds on.

A holder takes an offered item once it holds what the item builds on and lets the
item through. Whatever it held before, a holder that is offered all items in an
order in which they can be built ends with all of them.
-/
namespace Gossip
universe u
variable {α : Type u} (before : α → α)

def receive [DecidableEq α] (accepts : α → Bool) (held : List α) (a : α) : List α :=
  if before a ∈ held ∧ accepts a = true then a :: held else held

/-- Each offer with what the holder then makes of it. -/
def receiveAll [DecidableEq α] (held : List α) (offers : List (α × (α → Bool))) : List α :=
  offers.foldl (fun held offer => receive before offer.2 held offer.1) held

/-- Each item builds on a held one or on one before it. -/
def Ordered : List α → List α → Prop
  | _, [] => True
  | held, a :: as => before a ∈ held ∧ Ordered (a :: held) as

variable {before}

theorem Ordered.mono {held held' as : List α} (h : Ordered before held as)
    (sub : held ⊆ held') : Ordered before held' as := by
  induction as generalizing held held' with
  | nil => trivial
  | cons a as ih =>
      refine ⟨sub h.1, ih h.2 ?_⟩
      exact List.cons_subset_cons a sub

theorem Ordered.concat {held as : List α} {a : α} (h : Ordered before held as)
    (known : before a ∈ held ∨ before a ∈ as) : Ordered before held (as ++ [a]) := by
  induction as generalizing held with
  | nil => exact ⟨known.resolve_right List.not_mem_nil, trivial⟩
  | cons b bs ih =>
      refine ⟨h.1, ih h.2 ?_⟩
      obtain held | listed := known
      · exact Or.inl (List.mem_cons_of_mem b held)
      · obtain same | later := List.mem_cons.mp listed
        · exact Or.inl (same ▸ List.mem_cons_self)
        · exact Or.inr later

variable [DecidableEq α]

theorem subset_receive (accepts : α → Bool) (held : List α) (a : α) :
    held ⊆ receive before accepts held a := by
  rw [receive]
  split
  · exact List.subset_cons_self a held
  · exact List.Subset.refl held

theorem mem_receive {accepts : α → Bool} {held : List α} {a x : α}
    (h : x ∈ receive before accepts held a) :
    x ∈ held ∨ x = a ∧ before a ∈ held ∧ accepts a = true := by
  rw [receive] at h
  split at h
  · rename_i taken
    obtain rfl | old := List.mem_cons.mp h
    · exact Or.inr ⟨rfl, taken⟩
    · exact Or.inl old
  · exact Or.inl h

theorem mem_receive_self {accepts : α → Bool} {held : List α} {a : α}
    (known : before a ∈ held) (accepted : accepts a = true) :
    a ∈ receive before accepts held a := by
  rw [receive, if_pos ⟨known, accepted⟩]
  exact List.mem_cons_self

/-- Offers in an order in which they can be built all stay, and nothing else comes. -/
theorem mem_receiveAll {held : List α} {offers : List (α × (α → Bool))}
    (order : Ordered before held (offers.map Prod.fst))
    (accepted : ∀ offer ∈ offers, offer.2 offer.1 = true) (x : α) :
    x ∈ receiveAll before held offers ↔ x ∈ held ∨ x ∈ offers.map Prod.fst := by
  induction offers generalizing held with
  | nil => simp [receiveAll]
  | cons offer offers ih =>
      obtain ⟨known, later⟩ := order
      have taken : receive before offer.2 held offer.1 = offer.1 :: held :=
        if_pos ⟨known, accepted offer List.mem_cons_self⟩
      rw [receiveAll, List.foldl_cons, taken, ← receiveAll,
        ih later fun o ho => accepted o (List.mem_cons_of_mem offer ho)]
      rw [List.mem_cons, List.map_cons, List.mem_cons, or_left_comm, or_assoc]

end Gossip
