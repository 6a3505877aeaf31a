import Solochain.Library.Machine

/-!
A replica of a list, overwritten with whatever its owner computes.

The owner computes each new list from its own copy. Two copies with the same
members stay so, and a change drops from the replica what it drops from the owner.
Two copies that differ at the start differ until the first change, which then
drops whatever only the replica held.
-/
universe u v
variable {α : Type u} {ω : Type v}

structure Replica (α : Type u) where
  owner : List α
  mirror : List α
  deriving DecidableEq

namespace Replica

def InSync (r : Replica α) : Prop := ∀ a, a ∈ r.mirror ↔ a ∈ r.owner

/-- One change; a change that the owner refuses does nothing. -/
def change (compute : ω → List α → Option (List α)) (r : Replica α) (op : ω) : Replica α :=
  match compute op r.owner with
  | some list => { owner := list, mirror := list }
  | none => r

/-- A change drops only what it was asked to drop. -/
def DropsOnly (compute : ω → List α → Option (List α)) (asked : ω → α → Prop) (r : Replica α) :
    Prop :=
  ∀ op a, a ∈ r.mirror → a ∉ (change compute r op).mirror → asked op a

variable {compute : ω → List α → Option (List α)}

theorem inSync_change (r : Replica α) (op : ω) (h : InSync r) : InSync (change compute r op) := by
  rw [change]
  split
  · exact fun _ => Iff.rfl
  · exact h

theorem dropsOnly_of_inSync {asked : ω → α → Prop}
    (law : ∀ op list list', compute op list = some list' →
      ∀ a ∈ list, a ∉ list' → asked op a)
    {r : Replica α} (h : InSync r) : DropsOnly compute asked r := by
  intro op a held dropped
  rw [change] at dropped
  split at dropped
  · rename_i list computed
    exact law op r.owner list computed a ((h a).mp held) dropped
  · exact absurd held dropped

/-- Synchrony over all runs is decided at the start. -/
theorem visited_inSync_iff (compute : ω → List α → Option (List α)) (r : Replica α) :
    (∀ ops, ∀ s ∈ Machine.visited (change compute) r ops, InSync s) ↔ InSync r := by
  constructor
  · intro always
    exact always [] r (Machine.start_mem_visited _ r [])
  · intro start ops
    exact Machine.visited_of_preserved inSync_change start ops

/-- After any run the replica is the one of the start, or all that its owner took over at the
start or was asked to add. -/
theorem run_eq_or_added {asked : ω → α → Prop}
    (law : ∀ op list list', compute op list = some list' →
      ∀ a ∈ list', a ∉ list → asked op a) (r : Replica α) (ops : List ω) :
    Machine.run (change compute) r ops = r ∨
      (Machine.run (change compute) r ops).mirror = (Machine.run (change compute) r ops).owner ∧
        ∀ a ∈ (Machine.run (change compute) r ops).mirror,
          a ∈ r.owner ∨ ∃ op ∈ ops, asked op a := by
  have always : (∀ a ∈ (Machine.run (change compute) r ops).owner,
        a ∈ r.owner ∨ ∃ op ∈ ops, asked op a) ∧
      (Machine.run (change compute) r ops = r ∨
        (Machine.run (change compute) r ops).mirror =
          (Machine.run (change compute) r ops).owner) := by
    refine Machine.run_of_allowed
      (I := fun s => (∀ a ∈ s.owner, a ∈ r.owner ∨ ∃ op ∈ ops, asked op a) ∧
        (s = r ∨ s.mirror = s.owner))
      (A := fun op => op ∈ ops) ?_ ⟨fun a held => Or.inl held, Or.inl rfl⟩ fun op listed => listed
    intro s op listed h
    rw [change]
    split
    · rename_i list computed
      refine ⟨fun a held => ?_, Or.inr rfl⟩
      by_cases before : a ∈ s.owner
      · exact h.1 a before
      · exact Or.inr ⟨op, listed, law op s.owner list computed a held before⟩
    · exact h
  obtain same | synced := always.2
  · exact Or.inl same
  · refine Or.inr ⟨synced, fun a held => ?_⟩
    rw [synced] at held
    exact always.1 a held

end Replica
