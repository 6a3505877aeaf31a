import Solochain.Library.Saturating
import Mathlib.Algebra.BigOperators.Group.List.Basic

/-!
A ledger of accounts with a recorded issuance that saturates.

Deposits add to one account exactly, but to the recorded issuance only up to a
limit. From a start whose record is the true total, the record stays the true
total cut off at the limit, so it is the true total exactly while that fits.
-/
universe u
variable {κ : Type u}

structure Ledger (κ : Type u) where
  entries : List (κ × Nat)
  issuance : Nat

namespace Ledger

def total (L : Ledger κ) : Nat := (L.entries.map Prod.snd).sum

def accounts (L : Ledger κ) : List κ := L.entries.map Prod.fst

def ofList (entries : List (κ × Nat)) : Ledger κ :=
  { entries := entries, issuance := (entries.map Prod.snd).sum }

theorem ofList_issuance (entries : List (κ × Nat)) :
    (ofList entries).issuance = (ofList entries).total := rfl

variable [DecidableEq κ]

def depositEntry (a : κ) (amount : Nat) : List (κ × Nat) → List (κ × Nat)
  | [] => [(a, amount)]
  | (b, n) :: rest =>
      if b = a then (b, n + amount) :: rest else (b, n) :: depositEntry a amount rest

def deposit (limit : Nat) (L : Ledger κ) (d : κ × Nat) : Ledger κ :=
  { entries := depositEntry d.1 d.2 L.entries
    issuance := Saturating.add limit L.issuance d.2 }

def deposits (limit : Nat) (L : Ledger κ) (ds : List (κ × Nat)) : Ledger κ :=
  ds.foldl (deposit limit) L

theorem depositEntry_sum (a : κ) (amount : Nat) (entries : List (κ × Nat)) :
    ((depositEntry a amount entries).map Prod.snd).sum =
      (entries.map Prod.snd).sum + amount := by
  induction entries with
  | nil => simp [depositEntry]
  | cons e rest ih =>
      rw [depositEntry]
      split
      · simp only [List.map_cons, List.sum_cons]
        omega
      · simp only [List.map_cons, List.sum_cons, ih]
        omega

theorem depositEntry_of_not_mem {a : κ} {amount : Nat} {entries : List (κ × Nat)}
    (h : a ∉ entries.map Prod.fst) :
    depositEntry a amount entries = entries ++ [(a, amount)] := by
  induction entries with
  | nil => rfl
  | cons e rest ih =>
      simp only [List.map_cons, List.mem_cons, not_or] at h
      simp only [depositEntry, if_neg (Ne.symm h.1), ih h.2, List.cons_append]

@[simp] theorem total_deposit (limit : Nat) (L : Ledger κ) (d : κ × Nat) :
    (L.deposit limit d).total = L.total + d.2 :=
  depositEntry_sum d.1 d.2 L.entries

theorem total_deposits (limit : Nat) (L : Ledger κ) (ds : List (κ × Nat)) :
    (L.deposits limit ds).total = L.total + (ds.map Prod.snd).sum := by
  induction ds generalizing L with
  | nil => rfl
  | cons d ds ih =>
      calc
        ((L.deposit limit d).deposits limit ds).total
            = L.total + d.2 + (ds.map Prod.snd).sum := by rw [ih, total_deposit]
        _ = L.total + ((d :: ds).map Prod.snd).sum := by
            rw [List.map_cons, List.sum_cons, Nat.add_assoc]

/-- Deposits into accounts that have no entry yet append their entries. -/
theorem entries_deposits_of_fresh (limit : Nat) (L : Ledger κ) (ds : List (κ × Nat))
    (distinct : (ds.map Prod.fst).Nodup) (fresh : ∀ d ∈ ds, d.1 ∉ L.accounts) :
    (L.deposits limit ds).entries = L.entries ++ ds := by
  induction ds generalizing L with
  | nil => exact (List.append_nil _).symm
  | cons d ds ih =>
      obtain ⟨head, tail⟩ := List.nodup_cons.mp distinct
      have first : (L.deposit limit d).entries = L.entries ++ [d] :=
        depositEntry_of_not_mem (fresh d List.mem_cons_self)
      have later : ∀ e ∈ ds, e.1 ∉ (L.deposit limit d).accounts := by
        intro e he
        rw [accounts, first, List.map_append, List.mem_append, not_or]
        refine ⟨fresh e (List.mem_cons_of_mem d he), ?_⟩
        intro same
        rw [List.map_cons, List.map_nil, List.mem_singleton] at same
        exact head (same ▸ List.mem_map_of_mem he)
      calc
        ((L.deposit limit d).deposits limit ds).entries
            = (L.entries ++ [d]) ++ ds := by rw [ih _ tail later, first]
        _ = L.entries ++ d :: ds := by rw [List.append_assoc, List.singleton_append]

def Tracks (limit : Nat) (L : Ledger κ) : Prop := min L.issuance limit = min L.total limit

theorem tracks_deposit {limit : Nat} {L : Ledger κ} (h : Tracks limit L) (d : κ × Nat) :
    Tracks limit (L.deposit limit d) := by
  rw [Tracks] at h ⊢
  rw [total_deposit]
  simp only [deposit, Saturating.add]
  omega

theorem tracks_deposits {limit : Nat} {L : Ledger κ} (h : Tracks limit L) (ds : List (κ × Nat)) :
    Tracks limit (L.deposits limit ds) := by
  induction ds generalizing L with
  | nil => exact h
  | cons d ds ih => exact ih (tracks_deposit h d)

theorem issuance_deposits_le {limit : Nat} (L : Ledger κ) {ds : List (κ × Nat)} (h : ds ≠ []) :
    (L.deposits limit ds).issuance ≤ limit := by
  induction ds generalizing L with
  | nil => exact absurd rfl h
  | cons d ds ih =>
      cases ds with
      | nil => exact Saturating.add_le_limit _ _ _
      | cons e es => exact ih (L.deposit limit d) (List.cons_ne_nil e es)

/-- After a deposit the record is the true total, cut off at the limit. -/
theorem issuance_deposits {limit : Nat} {L : Ledger κ} (start : L.issuance = L.total)
    {ds : List (κ × Nat)} (h : ds ≠ []) :
    (L.deposits limit ds).issuance = min (L.deposits limit ds).total limit := by
  have tracks : Tracks limit (L.deposits limit ds) :=
    tracks_deposits (congrArg (min · limit) start) ds
  rw [← tracks]
  exact (Nat.min_eq_left (issuance_deposits_le L h)).symm

theorem issuance_eq_total_iff {limit : Nat} {L : Ledger κ} (start : L.issuance = L.total)
    {ds : List (κ × Nat)} (h : ds ≠ []) :
    (L.deposits limit ds).issuance = (L.deposits limit ds).total ↔
      (L.deposits limit ds).total ≤ limit := by
  rw [issuance_deposits start h]
  exact min_eq_left_iff

end Ledger
