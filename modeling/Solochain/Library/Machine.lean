import Mathlib.Data.List.Basic
import Mathlib.Logic.Function.Iterate

/-!
Runs of deterministic machines that consume one input at a time.

A machine is only its step function. The states a run visits and the outputs it
emits are folds over the inputs, so that one invariant rule serves every machine,
whatever its inputs mean.
-/
namespace Machine
universe u v w u' v'
variable {σ : Type u} {α : Type v} {β : Type w}

def run (step : σ → α → σ) (s : σ) (as : List α) : σ :=
  as.foldl step s

/-- Every state of a run, the start and the end included. -/
def visited (step : σ → α → σ) : σ → List α → List σ
  | s, [] => [s]
  | s, a :: as => s :: visited step (step s a) as

/-- What a run emits, one output for each input in the state that meets it. -/
def outputs (step : σ → α → σ) (out : σ → α → β) : σ → List α → List β
  | _, [] => []
  | s, a :: as => out s a :: outputs step out (step s a) as

@[simp] theorem run_cons (step : σ → α → σ) (s : σ) (a : α) (as : List α) :
    run step s (a :: as) = run step (step s a) as := rfl

theorem run_append (step : σ → α → σ) (s : σ) (as bs : List α) :
    run step s (as ++ bs) = run step (run step s as) bs :=
  List.foldl_append

theorem start_mem_visited (step : σ → α → σ) (s : σ) (as : List α) :
    s ∈ visited step s as := by
  cases as with
  | nil => exact List.mem_singleton_self s
  | cons a as => exact List.mem_cons_self

theorem run_eq_getLast_visited (step : σ → α → σ) (s : σ) (as : List α) :
    (visited step s as).getLast? = some (run step s as) := by
  induction as generalizing s with
  | nil => rfl
  | cons a as ih =>
      simp only [visited, run_cons]
      rw [List.getLast?_cons, ih (step s a), Option.getD_some]

/-- An invariant of single steps holds of every state visited from a state
that satisfies it. -/
theorem visited_of_preserved {step : σ → α → σ} {I : σ → Prop}
    (preserved : ∀ s a, I s → I (step s a)) {s : σ} (start : I s) (as : List α) :
    ∀ t ∈ visited step s as, I t := by
  induction as generalizing s with
  | nil =>
      intro t ht
      rw [List.mem_singleton.mp ht]
      exact start
  | cons a as ih =>
      intro t ht
      rcases List.mem_cons.mp ht with rfl | later
      · exact start
      · exact ih (preserved s a start) t later

theorem run_of_preserved {step : σ → α → σ} {I : σ → Prop}
    (preserved : ∀ s a, I s → I (step s a)) {s : σ} (start : I s) (as : List α) :
    I (run step s as) :=
  visited_of_preserved preserved start as _
    (List.mem_of_getLast? (run_eq_getLast_visited step s as))

/-- An invariant that only the inputs of one kind are known to keep. -/
theorem run_of_allowed {step : σ → α → σ} {I : σ → Prop} {A : α → Prop}
    (preserved : ∀ s a, A a → I s → I (step s a)) {s : σ} (start : I s) {as : List α}
    (allowed : ∀ a ∈ as, A a) : I (run step s as) := by
  induction as generalizing s with
  | nil => exact start
  | cons a as ih =>
      rw [List.forall_mem_cons] at allowed
      exact ih (preserved s a allowed.1 start) allowed.2

theorem outputs_of_preserved {step : σ → α → σ} {out : σ → α → β}
    {I : σ → Prop} {P : β → Prop}
    (preserved : ∀ s a, I s → I (step s a)) (emits : ∀ s a, I s → P (out s a))
    {s : σ} (start : I s) (as : List α) :
    ∀ b ∈ outputs step out s as, P b := by
  induction as generalizing s with
  | nil => simp [outputs]
  | cons a as ih =>
      intro b hb
      rcases List.mem_cons.mp hb with rfl | later
      · exact emits s a start
      · exact ih (preserved s a start) b later

/-- A relation between the state and what the run has emitted before it. -/
theorem run_outputs_of_preserved {step : σ → α → σ} {out : σ → α → β}
    {I : σ → List β → Prop}
    (preserved : ∀ s bs a, I s bs → I (step s a) (bs ++ [out s a]))
    {s : σ} {bs : List β} (start : I s bs) (as : List α) :
    I (run step s as) (bs ++ outputs step out s as) := by
  induction as generalizing s bs with
  | nil =>
      rw [outputs, List.append_nil]
      exact start
  | cons a as ih =>
      have later := ih (preserved s bs a start)
      rwa [List.append_assoc, List.singleton_append] at later

/-- Two machines that answer the same inputs stay related. -/
theorem run_of_related {τ : Type u'} {step : σ → α → σ} {step' : τ → α → τ} {R : σ → τ → Prop}
    (preserved : ∀ s t a, R s t → R (step s a) (step' t a)) {s : σ} {t : τ} (start : R s t)
    (as : List α) : R (run step s as) (run step' t as) := by
  induction as generalizing s t with
  | nil => exact start
  | cons a as ih => exact ih (preserved s t a start)

/-- A run of a machine that projects onto another one, input by input. -/
theorem run_of_projected {τ : Type u'} {γ : Type v'} {step : σ → α → σ} {step' : τ → γ → τ}
    {abs : σ → τ} {input : α → γ}
    (projected : ∀ s a, abs (step s a) = step' (abs s) (input a)) (s : σ) (as : List α) :
    abs (run step s as) = run step' (abs s) (as.map input) := by
  induction as generalizing s with
  | nil => rfl
  | cons a as ih => rw [run_cons, ih, projected, List.map_cons, run_cons]

/-- A machine whose every step is one step of another machine or hidden from it runs as
that machine does and emits the same. -/
theorem exists_run_of_simulated {τ : Type u'} {γ : Type v'} {step : σ → α → σ}
    {out : σ → α → Option β} {step' : τ → γ → τ} {out' : τ → γ → Option β} {abs : σ → τ}
    {A : α → Prop}
    (simulated : ∀ s a, A a → abs (step s a) = abs s ∧ out s a = none ∨
      ∃ c, abs (step s a) = step' (abs s) c ∧ out s a = out' (abs s) c)
    (s : σ) (as : List α) (allowed : ∀ a ∈ as, A a) :
    ∃ cs, abs (run step s as) = run step' (abs s) cs ∧
      (outputs step out s as).filterMap id = (outputs step' out' (abs s) cs).filterMap id := by
  induction as generalizing s with
  | nil => exact ⟨[], rfl, rfl⟩
  | cons a as ih =>
      obtain ⟨cs, states, emitted⟩ := ih (step s a) fun b hb =>
        allowed b (List.mem_cons_of_mem a hb)
      rcases simulated s a (allowed a List.mem_cons_self) with ⟨same, hidden⟩ | ⟨c, moved, shown⟩
      · refine ⟨cs, ?_, ?_⟩
        · rw [run_cons, states, same]
        · rw [outputs, hidden, List.filterMap_cons_none rfl, emitted, same]
      · refine ⟨c :: cs, ?_, ?_⟩
        · rw [run_cons, run_cons, states, moved]
        · rw [outputs, outputs, shown, List.filterMap_cons, List.filterMap_cons, emitted, moved]

/-- What one observer sees of a run is what he would see of his own inputs alone. -/
theorem run_filter {step : σ → α → σ} {own : α → Bool} {R : σ → σ → Prop}
    (trans : ∀ {s t u}, R s t → R t u → R s u)
    (seen : ∀ {s t} a, own a = true → R s t → R (step s a) (step t a))
    (hidden : ∀ s a, own a = false → R (step s a) s) {s t : σ} (start : R s t) (as : List α) :
    R (run step s as) (run step t (as.filter own)) := by
  induction as generalizing s t with
  | nil => exact start
  | cons a as ih =>
      cases mine : own a with
      | true =>
          rw [List.filter_cons_of_pos mine]
          exact ih (seen a mine start)
      | false =>
          rw [List.filter_cons_of_neg (Bool.eq_false_iff.mp mine)]
          exact ih (trans (hidden s a mine) start)

/-- A machine that ignores its inputs iterates one function. -/
theorem run_eq_iterate {step : σ → α → σ} {f : σ → σ}
    (ignores : ∀ s a, step s a = f s) (s : σ) (as : List α) :
    run step s as = f^[as.length] s := by
  induction as generalizing s with
  | nil => rfl
  | cons a as ih =>
      rw [run_cons, ih, ignores, List.length_cons, Function.iterate_succ_apply]

end Machine
