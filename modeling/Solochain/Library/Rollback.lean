import Solochain.Library.Machine

/-!
Folds of fallible attempts, with and without rollback.

An attempt returns its outcome together with the state it leaves behind, also
when it is rejected. Running a list of attempts in one storage layer keeps that
leftover; running each of them in a layer of its own discards it. The two folds
pass through the same states exactly when no rejected attempt leaves a trace.
A pipeline of stages is the usual reason for a trace: a failing stage stops it,
but does not undo what the earlier stages stored.
-/
namespace Rollback
universe u v w
variable {σ : Type u} {α : Type v} {ε : Type w}

abbrev Attempt (σ : Type u) (α : Type v) (ε : Type w) := α → σ → Except ε Unit × σ

/-- One storage layer for the whole list: the leftover of a rejection stays. -/
def keepStep (f : Attempt σ α ε) (s : σ) (a : α) : σ := (f a s).2

/-- One storage layer for each attempt: only an accepted one is committed. -/
def rollbackStep (f : Attempt σ α ε) (s : σ) (a : α) : σ :=
  match (f a s).1 with
  | .ok _ => (f a s).2
  | .error _ => s

def LeavesTrace (f : Attempt σ α ε) (s : σ) (a : α) : Prop :=
  (∃ e, (f a s).1 = .error e) ∧ (f a s).2 ≠ s

def Traceless (f : Attempt σ α ε) : σ → List α → Prop
  | _, [] => True
  | s, a :: as => ¬ LeavesTrace f s a ∧ Traceless f (rollbackStep f s a) as

theorem keepStep_eq_rollbackStep_iff (f : Attempt σ α ε) (s : σ) (a : α) :
    keepStep f s a = rollbackStep f s a ↔ ¬ LeavesTrace f s a := by
  rw [keepStep, rollbackStep, LeavesTrace]
  cases h : (f a s).1 with
  | ok _ => simp
  | error e => simp

/-- The folds agree on every state they pass through, not only on the last one,
exactly when no rejection leaves a trace. -/
theorem visited_keepStep_eq_iff (f : Attempt σ α ε) (s : σ) (as : List α) :
    Machine.visited (keepStep f) s as = Machine.visited (rollbackStep f) s as ↔
      Traceless f s as := by
  induction as generalizing s with
  | nil => exact ⟨fun _ => True.intro, fun _ => rfl⟩
  | cons a as ih =>
      simp only [Machine.visited, Traceless, List.cons.injEq, true_and]
      rw [← keepStep_eq_rollbackStep_iff f s a, ← ih]
      constructor
      · intro tails
        have heads : keepStep f s a = rollbackStep f s a := by
          have first := congrArg List.head? tails
          cases as <;> simpa [Machine.visited] using first
        exact ⟨heads, by rwa [heads] at tails⟩
      · rintro ⟨heads, tails⟩
        rwa [heads]

theorem run_keepStep_eq (f : Attempt σ α ε) (s : σ) (as : List α)
    (h : Traceless f s as) :
    Machine.run (keepStep f) s as = Machine.run (rollbackStep f) s as := by
  have last := congrArg List.getLast? ((visited_keepStep_eq_iff f s as).mpr h)
  rw [Machine.run_eq_getLast_visited, Machine.run_eq_getLast_visited] at last
  exact Option.some.inj last

abbrev Stage (σ : Type u) (α : Type v) (ε : Type w) := α → σ → Except ε σ

/-- The stages in order. The first failing one ends the pipeline and leaves what
the stages before it stored. -/
def runStages : List (Stage σ α ε) → Attempt σ α ε
  | [], _, s => (.ok (), s)
  | m :: ms, a, s =>
      match m a s with
      | .ok s' => runStages ms a s'
      | .error e => (.error e, s)

def ReadOnly (m : Stage σ α ε) : Prop := ∀ a s s', m a s = .ok s' → s' = s

theorem runStages_append (ms ns : List (Stage σ α ε)) (a : α) (s : σ) :
    runStages (ms ++ ns) a s =
      match (runStages ms a s).1 with
      | .ok _ => runStages ns a (runStages ms a s).2
      | .error e => (.error e, (runStages ms a s).2) := by
  induction ms generalizing s with
  | nil => rfl
  | cons m ms ih =>
      simp only [List.cons_append, runStages]
      cases m a s with
      | ok s' => exact ih s'
      | error e => rfl

theorem runStages_of_readOnly (ms : List (Stage σ α ε))
    (h : ∀ m ∈ ms, ReadOnly m) (a : α) (s : σ) : (runStages ms a s).2 = s := by
  induction ms generalizing s with
  | nil => rfl
  | cons m ms ih =>
      simp only [runStages]
      cases hm : m a s with
      | ok s' =>
          have same : s' = s := h m List.mem_cons_self a s s' hm
          subst same
          exact ih (fun n hn => h n (List.mem_cons_of_mem m hn)) s'
      | error e => rfl

/-- A quantity that no successful stage changes survives the pipeline, whatever
its outcome. -/
theorem runStages_of_unchanged {κ : Type*} (q : σ → κ) (a : α)
    (ms : List (Stage σ α ε))
    (h : ∀ m ∈ ms, ∀ s s', m a s = .ok s' → q s' = q s) (s : σ) :
    q (runStages ms a s).2 = q s := by
  induction ms generalizing s with
  | nil => rfl
  | cons m ms ih =>
      simp only [runStages]
      cases hm : m a s with
      | ok s' =>
          have later := ih (fun n hn => h n (List.mem_cons_of_mem m hn)) s'
          exact later.trans (h m List.mem_cons_self s s' hm)
      | error e => rfl

end Rollback
