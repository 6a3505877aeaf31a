import Mathlib.Data.List.Infix

/-!
Files by their paths, and operations that keep to one directory.

A directory is the prefix of the paths below it. An operation is confined to a
directory if it leaves alone what lies elsewhere, and neither its result nor what it
makes of the directory depends on anything else.
-/
namespace FileTree
universe u v w
variable {κ : Type u} {ν : Type v} {β : Type w}

abbrev Files (κ : Type u) (ν : Type v) := List κ → Option ν

def AgreeOn (dir : List κ) (files files' : Files κ ν) : Prop :=
  ∀ path, dir <+: path → files path = files' path

def AgreeOff (dir : List κ) (files files' : Files κ ν) : Prop :=
  ∀ path, ¬ dir <+: path → files path = files' path

/-- There is nothing at the directory or below it. -/
def Cleared (dir : List κ) (files : Files κ ν) : Prop := ∀ path, dir <+: path → files path = none

/-- Neither directory lies in the other one. -/
def Apart (a b : List κ) : Prop := ¬ a <+: b ∧ ¬ b <+: a

theorem Apart.symm {a b : List κ} (h : Apart a b) : Apart b a := ⟨h.2, h.1⟩

theorem Apart.not_both {a b path : List κ} (h : Apart a b) (ha : a <+: path) : ¬ b <+: path :=
  fun hb => (List.prefix_or_prefix_of_prefix ha hb).elim h.1 h.2

theorem Apart.below {a b a' b' : List κ} (h : Apart a b) (ha : a <+: a') (hb : b <+: b') :
    Apart a' b' :=
  ⟨fun inside => h.not_both (ha.trans inside) hb, fun inside => h.not_both ha (hb.trans inside)⟩

theorem apart_append (dir : List κ) {a b : κ} (h : a ≠ b) (rest rest' : List κ) :
    Apart (dir ++ a :: rest) (dir ++ b :: rest') := by
  refine ⟨fun inside => ?_, fun inside => ?_⟩
  · exact h (List.cons_prefix_cons.mp ((List.prefix_append_right_inj dir).mp inside)).1
  · exact h (List.cons_prefix_cons.mp ((List.prefix_append_right_inj dir).mp inside)).1.symm

theorem AgreeOff.on {a b : List κ} {files files' : Files κ ν} (h : AgreeOff a files files')
    (apart : Apart a b) : AgreeOn b files files' :=
  fun path inside => h path (apart.symm.not_both inside)

theorem AgreeOff.mono {dir sub : List κ} {files files' : Files κ ν} (h : AgreeOff sub files files')
    (below : dir <+: sub) : AgreeOff dir files files' :=
  fun path elsewhere => h path fun inside => elsewhere (below.trans inside)

theorem AgreeOn.mono {dir sub : List κ} {files files' : Files κ ν} (h : AgreeOn dir files files')
    (below : dir <+: sub) : AgreeOn sub files files' :=
  fun path inside => h path (below.trans inside)

theorem AgreeOn.trans {dir : List κ} {files files' files'' : Files κ ν}
    (h : AgreeOn dir files files') (h' : AgreeOn dir files' files'') : AgreeOn dir files files'' :=
  fun path inside => (h path inside).trans (h' path inside)

theorem Cleared.mono {dir sub : List κ} {files : Files κ ν} (h : Cleared dir files)
    (below : dir <+: sub) : Cleared sub files :=
  fun path inside => h path (below.trans inside)

theorem AgreeOn.cleared {dir : List κ} {files files' : Files κ ν} (h : AgreeOn dir files files')
    (cleared : Cleared dir files') : Cleared dir files :=
  fun path inside => (h path inside).trans (cleared path inside)

structure Confined (dir : List κ) (op : Files κ ν → β × Files κ ν) : Prop where
  off : ∀ files, AgreeOff dir (op files).2 files
  congr : ∀ files files', AgreeOn dir files files' →
    (op files).1 = (op files').1 ∧ AgreeOn dir (op files).2 (op files').2

theorem Confined.mono {dir sub : List κ} {op : Files κ ν → β × Files κ ν} (h : Confined sub op)
    (below : dir <+: sub) : Confined dir op := by
  refine ⟨fun files => (h.off files).mono below, ?_⟩
  intro files files' same
  obtain ⟨result, inner⟩ := h.congr files files' (same.mono below)
  refine ⟨result, ?_⟩
  intro path inside
  by_cases deep : sub <+: path
  · exact inner path deep
  · rw [h.off files path deep, h.off files' path deep]
    exact same path inside

theorem confined_pure (dir : List κ) (b : β) :
    Confined dir fun files : Files κ ν => (b, files) :=
  ⟨fun _ _ _ => rfl, fun _ _ same => ⟨rfl, same⟩⟩

theorem Confined.bind {γ : Type w} {dir : List κ} {op : Files κ ν → β × Files κ ν}
    (h : Confined dir op) (next : β → Files κ ν → γ × Files κ ν)
    (rest : ∀ b, Confined dir (next b)) :
    Confined dir fun files => next (op files).1 (op files).2 := by
  refine ⟨?_, ?_⟩
  · intro files path elsewhere
    exact ((rest _).off _ path elsewhere).trans (h.off files path elsewhere)
  · intro files files' same
    obtain ⟨result, inner⟩ := h.congr files files' same
    rw [result]
    exact (rest _).congr _ _ inner

/-- What happens elsewhere does not show in the directory. -/
theorem Confined.on_of_apart {dir other : List κ} {op : Files κ ν → β × Files κ ν}
    (h : Confined other op) (apart : Apart other dir) (files : Files κ ν) :
    AgreeOn dir (op files).2 files :=
  (h.off files).on apart

end FileTree
