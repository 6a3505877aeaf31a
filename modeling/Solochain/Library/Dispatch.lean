import Mathlib.Data.List.Nodup

/-!
Tables of guarded arms, tried in their order.

As long as no two arms have the same key, the order does not matter: an arm is
taken exactly for its own key.
-/
namespace Dispatch
universe u v w
variable {κ : Type u} {β : Type v} {arms : List (κ × β)} {k : κ} {b : β}

def keys (arms : List (κ × β)) : List κ := arms.map Prod.fst

theorem eq_of_mem (distinct : (keys arms).Nodup) {arm arm' : κ × β} (h : arm ∈ arms)
    (h' : arm' ∈ arms) (same : arm.1 = arm'.1) : arm = arm' :=
  List.inj_on_of_nodup_map distinct h h' same

variable [DecidableEq κ]

theorem map_lookup_cons {γ : Type w} (f : β → γ) (key : κ) (b : β) (arms : List (κ × β))
    (k : κ) :
    (((key, b) :: arms).lookup k).map f =
      if k = key then some (f b) else (arms.lookup k).map f := by
  by_cases h : k = key
  · rw [h, if_pos rfl, List.lookup_cons_self, Option.map_some]
  · have differs : (k == key) = false := beq_eq_false_iff_ne.mpr h
    rw [List.lookup_cons, differs, if_neg h]

theorem lookup_isSome_eq_contains (arms : List (κ × β)) (k : κ) :
    (arms.lookup k).isSome = (keys arms).contains k := by
  induction arms with
  | nil => rfl
  | cons arm arms ih =>
      rw [keys, List.map_cons, List.contains_cons, List.lookup_cons]
      cases k == arm.1 with
      | true => rfl
      | false => exact ih

theorem mem_of_lookup (h : arms.lookup k = some b) : (k, b) ∈ arms := by
  obtain ⟨before, after, rfl, _⟩ := List.lookup_eq_some_iff.mp h
  exact List.mem_append_right before List.mem_cons_self

/-- No arm is shadowed by one before it. -/
theorem lookup_eq_some_iff_mem (distinct : (keys arms).Nodup) :
    arms.lookup k = some b ↔ (k, b) ∈ arms := by
  constructor
  · exact mem_of_lookup
  · intro h
    have found : (arms.lookup k).isSome := by
      rw [lookup_isSome_eq_contains, List.contains_iff_mem]
      exact List.mem_map_of_mem h
    obtain ⟨b', hit⟩ := Option.isSome_iff_exists.mp found
    have same := eq_of_mem distinct (mem_of_lookup hit) h rfl
    rw [hit, (Prod.mk.inj same).2]

end Dispatch
