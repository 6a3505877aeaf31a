import Mathlib.Data.List.Basic

/-!
Bookkeeping that several owners keep about the same subjects.

Each owner drops only its own entries. Nothing about a dropped subject is left
exactly when every owner that wrote about one was asked.
-/
namespace Journal
universe u v
variable {ε : Type u} {ω : Type v} [DecidableEq ω]

def prune (owner : ε → ω) (dropped : ε → Bool) (w : ω) (entries : List ε) : List ε :=
  entries.filter fun e => !(owner e = w && dropped e)

theorem mem_prune {owner : ε → ω} {dropped : ε → Bool} {w : ω} {entries : List ε} {e : ε} :
    e ∈ prune owner dropped w entries ↔ e ∈ entries ∧ (dropped e = true → owner e ≠ w) := by
  rw [prune, List.mem_filter]
  cases dropped e <;> simp

/-- The owners in turn. -/
def pruneAll (owner : ε → ω) (dropped : ε → Bool) (ws : List ω) (entries : List ε) : List ε :=
  ws.foldl (fun left w => prune owner dropped w left) entries

theorem mem_pruneAll {owner : ε → ω} {dropped : ε → Bool} {ws : List ω} {entries : List ε}
    {e : ε} :
    e ∈ pruneAll owner dropped ws entries ↔
      e ∈ entries ∧ (dropped e = true → owner e ∉ ws) := by
  induction ws generalizing entries with
  | nil => simp [pruneAll]
  | cons w ws ih =>
      change e ∈ pruneAll owner dropped ws (prune owner dropped w entries) ↔ _
      rw [ih, mem_prune, and_assoc, ← forall_and]
      simp only [List.mem_cons, not_or]

theorem pruneAll_clean_iff (owner : ε → ω) (dropped : ε → Bool) (ws : List ω)
    (entries : List ε) :
    (∀ e ∈ pruneAll owner dropped ws entries, dropped e = false) ↔
      ∀ e ∈ entries, dropped e = true → owner e ∈ ws := by
  constructor
  · intro clean e he gone
    by_contra unasked
    have kept := clean e (mem_pruneAll.mpr ⟨he, fun _ => unasked⟩)
    exact Bool.false_ne_true (kept.symm.trans gone)
  · intro asked e he
    obtain ⟨listed, unasked⟩ := mem_pruneAll.mp he
    cases gone : dropped e with
    | false => rfl
    | true => exact absurd (asked e listed gone) (unasked gone)

end Journal
