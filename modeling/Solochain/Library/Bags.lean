import Mathlib.Data.List.Nodup
import Mathlib.Data.List.Chain
import Mathlib.Logic.Function.Basic

/-!
Lists that are kept nearly sorted by score, in bags with upper thresholds.

An item stands in the bag of the least threshold that its score does not exceed, and
only moves when its score leaves the bag. Neighbouring thresholds differ by at most
some ratio, which then bounds how far the order of the list is from that of the
scores.
-/
namespace Bags
universe u
variable {α : Type u}

def notional (thresholds : List Nat) (score : Nat) : Option Nat :=
  thresholds.find? fun threshold => score ≤ threshold

/-- The next threshold is larger, by no more than the ratio. -/
structure Step (num den a b : Nat) : Prop where
  lt : a < b
  ratio : b * den ≤ a * num

instance (num den a b : Nat) : Decidable (Step num den a b) :=
  decidable_of_iff (a < b ∧ b * den ≤ a * num) ⟨fun h => ⟨h.1, h.2⟩, fun h => ⟨h.lt, h.ratio⟩⟩

structure Entry (α : Type u) where
  item : α
  score : Nat
  bag : Nat
  deriving DecidableEq

/-- From the highest bag to the lowest, each from its oldest item on. -/
def iter (thresholds : List Nat) (entries : List (Entry α)) : List (Entry α) :=
  thresholds.reverse.flatMap fun threshold => entries.filter fun e => e.bag = threshold

/-- The later entry is no more than the ratio above the earlier one, or both may be
anything in the lowest bag. -/
def Near (lowest num den : Nat) (earlier later : Entry α) : Prop :=
  later.score ≤ lowest ∨ later.score * den ≤ earlier.score * num

def Bagged (thresholds : List Nat) (entries : List (Entry α)) : Prop :=
  ∀ e ∈ entries, notional thresholds e.score = some e.bag

theorem le_of_notional {thresholds : List Nat} {score bag : Nat}
    (h : notional thresholds score = some bag) : score ≤ bag :=
  of_decide_eq_true (List.find?_some (p := fun threshold => score ≤ threshold) h)

theorem mem_of_notional {thresholds : List Nat} {score bag : Nat}
    (h : notional thresholds score = some bag) : bag ∈ thresholds :=
  List.mem_of_find?_eq_some h

theorem exists_notional {thresholds : List Nat} {score top : Nat} (h : top ∈ thresholds)
    (below : score ≤ top) : ∃ bag, notional thresholds score = some bag :=
  Option.isSome_iff_exists.mp (List.find?_isSome.mpr ⟨top, h, decide_eq_true below⟩)

theorem near_of_notional {lowest num den : Nat} {thresholds : List Nat} {score bag : Nat}
    (chain : (lowest :: thresholds).IsChain (Step num den))
    (h : notional (lowest :: thresholds) score = some bag) :
    bag = lowest ∨ bag * den ≤ score * num := by
  induction thresholds generalizing lowest with
  | nil => exact Or.inl (List.mem_singleton.mp (mem_of_notional h))
  | cons next thresholds ih =>
      rw [notional, List.find?_cons] at h
      split at h
      · exact Or.inl (Option.some.inj h).symm
      · rename_i above
        obtain ⟨step, rest⟩ := List.isChain_cons_cons.mp chain
        obtain rfl | near := ih rest h
        · refine Or.inr (step.ratio.trans (Nat.mul_le_mul_right num ?_))
          exact Nat.le_of_not_le (of_decide_eq_false above)
        · exact Or.inr near

theorem mem_iter {thresholds : List Nat} {entries : List (Entry α)} {e : Entry α} :
    e ∈ iter thresholds entries ↔ e ∈ entries ∧ e.bag ∈ thresholds := by
  rw [iter, List.mem_flatMap]
  constructor
  · intro h
    obtain ⟨bag, listed, inside⟩ := h
    obtain ⟨held, same⟩ := List.mem_filter.mp inside
    rw [of_decide_eq_true same]
    exact ⟨held, List.mem_reverse.mp listed⟩
  · intro h
    exact ⟨e.bag, List.mem_reverse.mpr h.2, List.mem_filter.mpr ⟨h.1, decide_eq_true rfl⟩⟩

theorem iter_perm {thresholds : List Nat} {entries : List (Entry α)}
    (increasing : thresholds.Pairwise (· < ·)) (bagged : Bagged thresholds entries)
    (distinct : entries.Nodup) : (iter thresholds entries).Perm entries := by
  have once : (iter thresholds entries).Nodup := by
    refine List.nodup_flatMap.mpr ⟨fun bag _ => distinct.filter _, ?_⟩
    refine (List.pairwise_reverse.mpr increasing).imp fun lt e inside inside' => ?_
    have bag := of_decide_eq_true (List.mem_filter.mp inside).2
    have bag' := of_decide_eq_true (List.mem_filter.mp inside').2
    exact absurd (bag'.symm.trans bag) (Nat.ne_of_lt lt)
  refine (List.perm_ext_iff_of_nodup once distinct).mpr fun e => ?_
  rw [mem_iter]
  exact and_iff_left_of_imp fun held => mem_of_notional (bagged e held)

/-- The order of the list is that of the scores up to the ratio. -/
theorem iter_pairwise {lowest num den : Nat} {thresholds : List Nat} {entries : List (Entry α)}
    (first : thresholds.head? = some lowest) (chain : thresholds.IsChain (Step num den))
    (increasing : thresholds.Pairwise (· < ·)) (bagged : Bagged thresholds entries) :
    (iter thresholds entries).Pairwise (Near lowest num den) := by
  obtain ⟨rest, rfl⟩ := List.head?_eq_some_iff.mp first
  have near {e e' : Entry α} (held : e ∈ entries) (held' : e' ∈ entries) (le : e'.bag ≤ e.bag) :
      Near lowest num den e e' := by
    have below := (le_of_notional (bagged e' held')).trans le
    obtain same | ratio := near_of_notional chain (bagged e held)
    · exact Or.inl (same ▸ below)
    · exact Or.inr ((Nat.mul_le_mul_right den below).trans ratio)
  refine List.pairwise_flatMap.mpr ⟨?_, ?_⟩
  · intro bag _
    refine List.pairwise_of_forall_mem_list fun e inside e' inside' => ?_
    obtain ⟨held, same⟩ := List.mem_filter.mp inside
    obtain ⟨held', same'⟩ := List.mem_filter.mp inside'
    refine near held held' ?_
    rw [of_decide_eq_true same, of_decide_eq_true same']
  · refine (List.pairwise_reverse.mpr increasing).imp fun lt e inside e' inside' => ?_
    obtain ⟨held, bag⟩ := List.mem_filter.mp inside
    obtain ⟨held', bag'⟩ := List.mem_filter.mp inside'
    refine near held held' ?_
    rw [of_decide_eq_true bag, of_decide_eq_true bag']
    exact Nat.le_of_lt lt

inductive Op (α : Type u)
  | insert (item : α) (score : Nat)
  | update (item : α) (score : Nat)
  | remove (item : α)

/-- The scores an operation may bring all have a bag. -/
def Op.Within (top : Nat) : Op α → Prop
  | .insert _ score | .update _ score => score ≤ top
  | .remove _ => True

/-- The list holds the scored items, each once and in its bag. -/
structure Holds (thresholds : List Nat) (entries : List (Entry α)) (scores : α → Option Nat) :
    Prop where
  bagged : Bagged thresholds entries
  distinct : (entries.map Entry.item).Nodup
  scored : ∀ item score,
    scores item = some score ↔ ∃ e ∈ entries, e.item = item ∧ e.score = score

variable {thresholds : List Nat} {entries : List (Entry α)} {scores : α → Option Nat}

theorem Holds.isSome_iff (h : Holds thresholds entries scores) (item : α) :
    (scores item).isSome ↔ item ∈ entries.map Entry.item := by
  rw [Option.isSome_iff_exists, List.mem_map]
  constructor
  · intro found
    obtain ⟨score, same⟩ := found
    obtain ⟨e, held, of, _⟩ := (h.scored item score).mp same
    exact ⟨e, held, of⟩
  · intro found
    obtain ⟨e, held, of⟩ := found
    exact ⟨e.score, (h.scored item e.score).mpr ⟨e, held, of, rfl⟩⟩

theorem Holds.score_of_mem (h : Holds thresholds entries scores) {e : Entry α}
    (held : e ∈ entries) : scores e.item = some e.score :=
  (h.scored e.item e.score).mpr ⟨e, held, rfl, rfl⟩

theorem Holds.eq_of_item (h : Holds thresholds entries scores) {e e' : Entry α}
    (held : e ∈ entries) (held' : e' ∈ entries) (same : e.item = e'.item) : e = e' :=
  List.inj_on_of_nodup_map h.distinct held held' same

theorem Holds.nil : Holds thresholds [] fun _ : α => none := by
  refine ⟨fun _ held => absurd held List.not_mem_nil, List.nodup_nil, fun item score => ?_⟩
  constructor
  · intro none
    cases none
  · intro held
    obtain ⟨e, he, _⟩ := held
    exact absurd he List.not_mem_nil

/-- The order inside the bags is left open. -/
theorem Holds.perm {entries' : List (Entry α)} (h : Holds thresholds entries scores)
    (reordered : entries.Perm entries') : Holds thresholds entries' scores := by
  refine ⟨fun e he => h.bagged e (reordered.mem_iff.mpr he), ?_, ?_⟩
  · exact (reordered.map Entry.item).nodup_iff.mp h.distinct
  · intro item score
    rw [h.scored]
    exact exists_congr fun e => and_congr_left' reordered.mem_iff

/-- The list is read with each item once, and no other. -/
theorem Holds.iter_perm (h : Holds thresholds entries scores)
    (increasing : thresholds.Pairwise (· < ·)) : (iter thresholds entries).Perm entries :=
  Bags.iter_perm increasing h.bagged h.distinct.of_map

variable [DecidableEq α]

def step (thresholds : List Nat) (entries : List (Entry α)) : Op α → List (Entry α)
  | .insert item score =>
      if item ∈ entries.map Entry.item then entries
      else
        match notional thresholds score with
        | some bag => entries ++ [{ item := item, score := score, bag := bag }]
        | none => entries
  | .update item score =>
      match entries.find? (fun e => e.item = item), notional thresholds score with
      | some old, some bag =>
          if old.bag = bag then
            entries.map fun e => if e.item = item then { e with score := score } else e
          else
            entries.filter (fun e => e.item ≠ item) ++
              [{ item := item, score := score, bag := bag }]
      | _, _ => entries
  | .remove item => entries.filter fun e => e.item ≠ item

/-- What the operations are for: the scores of the members, without any order. -/
def scoreStep (scores : α → Option Nat) : Op α → α → Option Nat
  | .insert item score =>
      if (scores item).isNone then Function.update scores item (some score) else scores
  | .update item score =>
      if (scores item).isSome then Function.update scores item (some score) else scores
  | .remove item => Function.update scores item none

/-- An item that is missing is added in its bag. -/
theorem Holds.append (h : Holds thresholds entries scores) {item : α} {score bag : Nat}
    (missing : item ∉ entries.map Entry.item) (found : notional thresholds score = some bag) :
    Holds thresholds (entries ++ [{ item := item, score := score, bag := bag }])
      (Function.update scores item (some score)) := by
  refine ⟨?_, ?_, ?_⟩
  · intro e he
    obtain old | new := List.mem_append.mp he
    · exact h.bagged e old
    · rw [List.mem_singleton.mp new]
      exact found
  · rw [List.map_append, List.map_singleton]
    exact List.Nodup.append h.distinct (List.nodup_singleton item)
      (List.disjoint_singleton.mpr missing)
  · intro other score'
    by_cases same : other = item
    · subst same
      rw [Function.update_self]
      constructor
      · intro new
        cases new
        exact ⟨_, List.mem_append_right _ (List.mem_singleton_self _), rfl, rfl⟩
      · intro held
        obtain ⟨e, he, of, rfl⟩ := held
        obtain old | new := List.mem_append.mp he
        · exact absurd (of ▸ List.mem_map_of_mem old) missing
        · rw [List.mem_singleton.mp new]
    · rw [Function.update_of_ne same, h.scored]
      constructor
      · intro held
        obtain ⟨e, he, of⟩ := held
        exact ⟨e, List.mem_append_left _ he, of⟩
      · intro held
        obtain ⟨e, he, of⟩ := held
        obtain old | new := List.mem_append.mp he
        · exact ⟨e, old, of⟩
        · rw [List.mem_singleton.mp new] at of
          exact absurd of.1.symm same

theorem Holds.erase (h : Holds thresholds entries scores) (item : α) :
    Holds thresholds (entries.filter fun e => e.item ≠ item)
      (Function.update scores item none) := by
  have kept {e : Entry α} :
      e ∈ entries.filter (fun e => e.item ≠ item) ↔ e ∈ entries ∧ e.item ≠ item := by
    rw [List.mem_filter, decide_eq_true_iff]
  refine ⟨fun e he => h.bagged e (kept.mp he).1, ?_, ?_⟩
  · exact h.distinct.sublist (List.filter_sublist.map Entry.item)
  · intro other score
    by_cases same : other = item
    · subst same
      rw [Function.update_self]
      constructor
      · intro none
        cases none
      · intro held
        obtain ⟨e, he, of, _⟩ := held
        exact absurd of (kept.mp he).2
    · rw [Function.update_of_ne same, h.scored]
      constructor
      · intro held
        obtain ⟨e, he, of⟩ := held
        exact ⟨e, kept.mpr ⟨he, fun clash => same (of.1.symm.trans clash)⟩, of⟩
      · intro held
        obtain ⟨e, he, of⟩ := held
        exact ⟨e, (kept.mp he).1, of⟩

/-- A score that stays in its bag is rewritten where it stands. -/
theorem Holds.rewrite (h : Holds thresholds entries scores) {old : Entry α} {score : Nat}
    (held : old ∈ entries) (found : notional thresholds score = some old.bag) :
    Holds thresholds
      (entries.map fun e => if e.item = old.item then { e with score := score } else e)
      (Function.update scores old.item (some score)) := by
  have items : (entries.map fun e => if e.item = old.item then { e with score := score }
      else e).map Entry.item = entries.map Entry.item := by
    rw [List.map_map]
    refine List.map_congr_left fun e _ => ?_
    rw [Function.comp_apply]
    split <;> rfl
  refine ⟨?_, ?_, ?_⟩
  · intro e he
    obtain ⟨e, before, rfl⟩ := List.mem_map.mp he
    split
    · rename_i same
      rw [h.eq_of_item before held same]
      exact found
    · exact h.bagged e before
  · rw [items]
    exact h.distinct
  · intro other score'
    by_cases same : other = old.item
    · subst same
      rw [Function.update_self]
      constructor
      · intro new
        cases new
        exact ⟨_, List.mem_map_of_mem held, by rw [if_pos rfl], by rw [if_pos rfl]⟩
      · intro found
        obtain ⟨e, he, of, rfl⟩ := found
        obtain ⟨e, before, rfl⟩ := List.mem_map.mp he
        split
        · rfl
        · rename_i differs
          rw [if_neg differs] at of
          exact absurd of differs
    · rw [Function.update_of_ne same, h.scored]
      constructor
      · intro found
        obtain ⟨e, he, of⟩ := found
        have differs : e.item ≠ old.item := fun clash => same (of.1.symm.trans clash)
        exact ⟨e, List.mem_map.mpr ⟨e, he, if_neg differs⟩, of⟩
      · intro found
        obtain ⟨e, he, of⟩ := found
        obtain ⟨e, before, rfl⟩ := List.mem_map.mp he
        split at of
        · rename_i clash
          exact absurd (of.1.symm.trans clash) same
        · exact ⟨e, before, of⟩

theorem Holds.step {top : Nat} (h : Holds thresholds entries scores) (bounded : top ∈ thresholds)
    (op : Op α) (within : op.Within top) :
    Holds thresholds (Bags.step thresholds entries op) (scoreStep scores op) := by
  cases op with
  | insert item score =>
      obtain ⟨bag, found⟩ := exists_notional bounded within
      simp only [Bags.step, scoreStep, found]
      by_cases held : item ∈ entries.map Entry.item
      · have some := (h.isSome_iff item).mpr held
        rw [if_pos held, if_neg (by simpa using Option.isSome_iff_ne_none.mp some)]
        exact h
      · have none : ¬ (scores item).isSome := fun some => held ((h.isSome_iff item).mp some)
        rw [if_neg held, if_pos (by simpa using none)]
        exact h.append held found
  | update item score =>
      obtain ⟨bag, found⟩ := exists_notional bounded within
      simp only [Bags.step, scoreStep, found]
      cases hit : entries.find? (fun e => e.item = item) with
      | none =>
          have missing : item ∉ entries.map Entry.item := by
            intro listed
            obtain ⟨e, held, of⟩ := List.mem_map.mp listed
            exact List.find?_eq_none.mp hit e held (decide_eq_true of)
          rw [if_neg fun some => missing ((h.isSome_iff item).mp some)]
          exact h
      | some old =>
          have held := List.mem_of_find?_eq_some hit
          obtain rfl : old.item = item :=
            of_decide_eq_true (List.find?_some (p := fun e : Entry α => e.item = item) hit)
          rw [if_pos ((h.isSome_iff old.item).mpr (List.mem_map_of_mem held))]
          dsimp only
          split
          · rename_i stays
            exact h.rewrite held (stays ▸ found)
          · have missing : old.item ∉
                (entries.filter fun e => e.item ≠ old.item).map Entry.item := by
              intro listed
              obtain ⟨e, inside, of⟩ := List.mem_map.mp listed
              exact absurd of (of_decide_eq_true (List.mem_filter.mp inside).2)
            have moved := (h.erase old.item).append missing found
            rwa [Function.update_idem] at moved
  | remove item => exact h.erase item

end Bags
