import Mathlib.Data.List.Basic

/-!
Scripts of steps that can fail, with effects between them.

A run stops at the first step that fails and keeps the effects so far. What holds of
every beginning of the effects therefore holds whatever fails.
-/
namespace Script
universe u v
variable {σ : Type u} {ε : Type v}

inductive Action (σ : Type u) (ε : Type v)
  | attempt (step : σ)
  | emit (effect : ε)
  deriving DecidableEq

def effects : List (Action σ ε) → List ε
  | [] => []
  | .attempt _ :: script => effects script
  | .emit effect :: script => effect :: effects script

def steps : List (Action σ ε) → List σ
  | [] => []
  | .attempt step :: script => step :: steps script
  | .emit _ :: script => steps script

structure Outcome (ε : Type v) where
  trace : List ε
  completed : Bool
  deriving DecidableEq

def exec (fails : σ → Bool) : List (Action σ ε) → Outcome ε
  | [] => { trace := [], completed := true }
  | .attempt step :: script =>
      if fails step then { trace := [], completed := false } else exec fails script
  | .emit effect :: script =>
      { exec fails script with trace := effect :: (exec fails script).trace }

theorem effects_append (script script' : List (Action σ ε)) :
    effects (script ++ script') = effects script ++ effects script' := by
  induction script with
  | nil => rfl
  | cons action script ih =>
      cases action with
      | attempt step => exact ih
      | emit effect => exact congrArg (effect :: ·) ih

variable {fails : σ → Bool}

theorem trace_begins (script : List (Action σ ε)) :
    (exec fails script).trace <+: effects script := by
  induction script with
  | nil => exact List.prefix_rfl
  | cons action script ih =>
      cases action with
      | attempt step =>
          rw [exec]
          split
          · exact List.nil_prefix
          · exact ih
      | emit effect => exact List.cons_prefix_cons.mpr ⟨rfl, ih⟩

theorem completed_iff (script : List (Action σ ε)) :
    (exec fails script).completed = true ↔ ∀ step ∈ steps script, fails step = false := by
  induction script with
  | nil => simp [exec, steps]
  | cons action script ih =>
      cases action with
      | attempt step =>
          rw [exec, steps, List.forall_mem_cons]
          cases failed : fails step with
          | true => simp
          | false => simpa using ih
      | emit effect => exact ih

theorem trace_of_completed {script : List (Action σ ε)}
    (h : (exec fails script).completed = true) : (exec fails script).trace = effects script := by
  induction script with
  | nil => rfl
  | cons action script ih =>
      cases action with
      | attempt step =>
          rw [exec] at h ⊢
          split at h
          · cases h
          · rename_i works
            rw [if_neg works]
            exact ih h
      | emit effect => exact congrArg (effect :: ·) (ih h)

/-- An effect that only stands at the end tells whether the script was completed. -/
theorem mem_trace_concat_iff {script : List (Action σ ε)} {effect : ε}
    (fresh : effect ∉ effects script) :
    effect ∈ (exec fails (script ++ [.emit effect])).trace ↔
      (exec fails (script ++ [.emit effect])).completed = true := by
  induction script with
  | nil => simp [exec]
  | cons action script ih =>
      cases action with
      | attempt step =>
          rw [List.cons_append, exec]
          split
          · simp
          · exact ih fresh
      | emit other =>
          rw [effects, List.mem_cons, not_or] at fresh
          rw [List.cons_append, exec, List.mem_cons, or_iff_right fresh.1]
          exact ih fresh.2

/-- Nothing comes after an effect that only stands at the end. -/
theorem eq_nil_of_trace_concat {script : List (Action σ ε)} {effect : ε} {before after : List ε}
    (fresh : effect ∉ effects script)
    (trace : (exec fails (script ++ [.emit effect])).trace = before ++ effect :: after) :
    after = [] := by
  obtain ⟨rest, whole⟩ := @trace_begins _ _ fails (script ++ [.emit effect])
  rw [trace, effects_append, List.append_assoc, List.cons_append] at whole
  obtain none | ⟨init, last, split⟩ := List.eq_nil_or_concat (after ++ rest)
  · exact (List.append_eq_nil_iff.mp none).1
  · rw [split, List.concat_eq_append, ← List.cons_append, ← List.append_assoc] at whole
    have inside := (List.append_inj' whole rfl).1
    exact absurd (inside ▸ List.mem_append_right before List.mem_cons_self) fresh

variable [DecidableEq ε]

/-- No `b` stands before the first `a`. -/
def Precedes (a b : ε) : List ε → Bool
  | [] => true
  | x :: xs => if x = a then true else if x = b then false else Precedes a b xs

theorem precedes_begins {a b : ε} {xs ys : List ε} (begins : xs <+: ys)
    (h : Precedes a b ys = true) : Precedes a b xs = true := by
  induction xs generalizing ys with
  | nil => rfl
  | cons x xs ih =>
      cases ys with
      | nil => exact absurd begins (by simp)
      | cons y ys =>
          obtain ⟨rfl, rest⟩ := List.cons_prefix_cons.mp begins
          rw [Precedes] at h ⊢
          split
          · rfl
          · rename_i other
            rw [if_neg other] at h
            split
            · rename_i same
              rw [if_pos same] at h
              cases h
            · rename_i differs
              rw [if_neg differs] at h
              exact ih rest h

theorem mem_of_precedes {a b : ε} {before after : List ε} (distinct : b ≠ a)
    (h : Precedes a b (before ++ b :: after) = true) : a ∈ before := by
  induction before with
  | nil =>
      rw [List.nil_append, Precedes, if_neg distinct, if_pos rfl] at h
      cases h
  | cons x before ih =>
      rw [List.cons_append, Precedes] at h
      split at h
      · rename_i same
        exact same ▸ List.mem_cons_self
      · split at h
        · cases h
        · exact List.mem_cons_of_mem x (ih h)

end Script
