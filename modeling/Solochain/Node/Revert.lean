import Solochain.Library.Journal
import Solochain.Library.Machine
import Solochain.Runtime.Types

/-!
The auxiliary state of the consensus engines, from the import of a block to the
`Revert` command.

Blocks are imported through BABE over GRANDPA, and both write about them. The
client and the engines belong to other crates: what the client does to a chain when
it reverts is a parameter that carries its laws.
-/
namespace Solochain

structure ImportedBlock where
  hash : H256
  parent : H256
  number : Nat
  nextEpoch : Bool
  authoritySetChange : Bool
  deriving DecidableEq

inductive AuxKind
  | epochChange
  | blockWeight
  | authoritySetChange
  deriving DecidableEq

def AuxKind.engine : AuxKind → Engine
  | .epochChange => .babe
  | .blockWeight => .babe
  | .authoritySetChange => .grandpa

structure AuxEntry where
  kind : AuxKind
  block : ImportedBlock
  deriving DecidableEq

/-- The blocks of the client, the last one first, and the auxiliary state. -/
structure Chain where
  blocks : List ImportedBlock
  best : ImportedBlock
  finalized : Nat
  aux : List AuxEntry

def Chain.genesis (hash : H256) : Chain where
  blocks := [⟨hash, hash, 0, false, false⟩]
  best := ⟨hash, hash, 0, false, false⟩
  finalized := 0
  aux := []

/-- An import refuses a block with `none`. -/
abbrev BlockImport := ImportedBlock → Chain → Option Chain

/-- The client takes a new block whose parent it knows. Whether it gets the best one
is the choice of the fork rule. -/
def clientImport (asBest : Bool) : BlockImport := fun b c =>
  if c.blocks.all (fun known => known.hash != b.hash) &&
      c.blocks.any (fun known => known.hash = b.parent && known.number + 1 = b.number) then
    some { c with blocks := b :: c.blocks, best := if asBest then b else c.best }
  else none

def grandpaBlockImport (inner : BlockImport) : BlockImport := fun b c =>
  (inner b c).map fun c =>
    { c with aux := (if b.authoritySetChange then [⟨.authoritySetChange, b⟩] else []) ++ c.aux }

def babeBlockImport (inner : BlockImport) : BlockImport := fun b c =>
  (inner b c).map fun c =>
    { c with aux := (if b.nextEpoch then [⟨.epochChange, b⟩] else []) ++
        ⟨.blockWeight, b⟩ :: c.aux }

/-- The block import of `build_babe_grandpa_import_queue`. -/
def blockImport (asBest : Bool) : BlockImport :=
  babeBlockImport (grandpaBlockImport (clientImport asBest))

/-- Finality lets the engines drop entries about the blocks it decides. -/
inductive ChainEvent
  | importBlock (block : ImportedBlock) (asBest : Bool)
  | finalize (number : Nat) (drops : AuxEntry → Bool)

def Chain.step (c : Chain) : ChainEvent → Chain
  | .importBlock block asBest => (blockImport asBest block c).getD c
  | .finalize number drops =>
      if c.finalized ≤ number ∧ number ≤ c.best.number then
        { c with
          finalized := number
          aux := c.aux.filter fun e => number < e.block.number || !drops e }
      else c

/-- How many blocks can be reverted: never a finalized one. -/
def Chain.revertible (c : Chain) (n : Nat) : Nat := min n (c.best.number - c.finalized)

/-- `revert_chain`: it takes the best block along if it reverts anything, and neither
reads nor writes auxiliary state. -/
structure RevertChain where
  revert : Chain → Nat → Chain
  aux_frame : ∀ c aux n, revert { c with aux := aux } n = { revert c n with aux := aux }
  keeps_blocks : ∀ c n, c.revertible n = 0 → (revert c n).blocks = c.blocks
  removes_best : ∀ c n, 0 < c.revertible n → c.best ∉ (revert c n).blocks

namespace RevertChain
variable (R : RevertChain)

def isReverted (c : Chain) (n : Nat) (b : ImportedBlock) : Bool :=
  decide (b ∈ c.blocks) && decide (b ∉ (R.revert c n).blocks)

/-- The `revert` functions of these engines, each of which prunes its own entries. -/
def revertEngines (engines : List Engine) (c : Chain) (n : Nat) : Chain :=
  { c with
    aux := Journal.pruneAll (fun e => e.kind.engine) (fun e => R.isReverted c n e.block)
      engines c.aux }

/-- The closure of the `Revert` command calls `sc_consensus_grandpa::revert`. -/
def auxRevert : Chain → Nat → Chain := R.revertEngines [.grandpa]

/-- The command runs the closure, then reverts the chain. -/
def run (auxRevert : Chain → Nat → Chain) (c : Chain) (n : Nat) : Chain :=
  R.revert (auxRevert c n) n

def command (c : Chain) (n : Nat) : Chain := R.run R.auxRevert c n

end RevertChain

/-- No entry is about a block that was there before and is not any more. -/
def AuxClean (before after : Chain) : Prop :=
  ∀ e ∈ after.aux, e.block ∈ before.blocks → e.block ∈ after.blocks

/-- Every block above the finalized ones has its weight in the auxiliary state. -/
structure Weighed (c : Chain) : Prop where
  best_mem : c.best ∈ c.blocks
  weighed : ∀ b ∈ c.blocks, c.finalized < b.number → ⟨.blockWeight, b⟩ ∈ c.aux

theorem weighed_genesis (hash : H256) : Weighed (.genesis hash) where
  best_mem := List.mem_singleton_self _
  weighed := by
    intro b hb above
    rw [List.mem_singleton.mp hb] at above
    exact absurd above (Nat.lt_irrefl 0)

theorem blockImport_eq_some {asBest : Bool} {b : ImportedBlock} {c c' : Chain}
    (h : blockImport asBest b c = some c') :
    c'.blocks = b :: c.blocks ∧ (c'.best = b ∨ c'.best = c.best) ∧
      c'.finalized = c.finalized ∧ ⟨.blockWeight, b⟩ ∈ c'.aux ∧ c.aux ⊆ c'.aux := by
  rw [blockImport, babeBlockImport, Option.map_eq_some_iff] at h
  obtain ⟨granted, h, rfl⟩ := h
  rw [grandpaBlockImport, Option.map_eq_some_iff] at h
  obtain ⟨taken, h, rfl⟩ := h
  rw [clientImport] at h
  split at h
  · cases h
    refine ⟨rfl, ?_, rfl, ?_, ?_⟩
    · cases asBest with
      | true => exact Or.inl rfl
      | false => exact Or.inr rfl
    · exact List.mem_append_right _ List.mem_cons_self
    · intro e he
      exact List.mem_append_right _ (List.mem_cons_of_mem _ (List.mem_append_right _ he))
  · cases h

theorem weighed_import {asBest : Bool} {b : ImportedBlock} {c c' : Chain}
    (h : blockImport asBest b c = some c') (inv : Weighed c) : Weighed c' := by
  obtain ⟨blocks, best, finalized, weight, kept⟩ := blockImport_eq_some h
  constructor
  · rw [blocks]
    rcases best with same | same
    · rw [same]
      exact List.mem_cons_self
    · rw [same]
      exact List.mem_cons_of_mem _ inv.best_mem
  · intro a ha above
    rw [blocks] at ha
    rw [finalized] at above
    rcases List.mem_cons.mp ha with rfl | old
    · exact weight
    · exact kept (inv.weighed a old above)

theorem weighed_step (c : Chain) (e : ChainEvent) (inv : Weighed c) : Weighed (c.step e) := by
  cases e with
  | importBlock block asBest =>
      rw [Chain.step]
      cases taken : blockImport asBest block c with
      | none => exact inv
      | some c' => exact weighed_import taken inv
  | finalize number drops =>
      rw [Chain.step]
      split
      · rename_i valid
        refine ⟨inv.best_mem, ?_⟩
        intro b hb above
        have old := inv.weighed b hb (valid.1.trans_lt above)
        refine List.mem_filter.mpr ⟨old, ?_⟩
        rw [Bool.or_eq_true]
        exact Or.inl (decide_eq_true above)
      · exact inv

theorem weighed_run (hash : H256) (events : List ChainEvent) :
    Weighed (Machine.run Chain.step (.genesis hash) events) :=
  Machine.run_of_preserved weighed_step (weighed_genesis hash) events

section Command
variable (R : RevertChain) {c : Chain} {n : Nat}

theorem isReverted_eq_true_iff (b : ImportedBlock) :
    R.isReverted c n b = true ↔ b ∈ c.blocks ∧ b ∉ (R.revert c n).blocks := by
  rw [RevertChain.isReverted, Bool.and_eq_true, decide_eq_true_eq, decide_eq_true_eq]

/-- The state is clean exactly when every engine that wrote about a reverted block was asked. -/
theorem auxClean_run_iff (engines : List Engine) :
    AuxClean c (R.run (R.revertEngines engines) c n) ↔
      ∀ e ∈ c.aux, R.isReverted c n e.block = true → e.kind.engine ∈ engines := by
  rw [← Journal.pruneAll_clean_iff, RevertChain.run, RevertChain.revertEngines, R.aux_frame]
  refine forall₂_congr fun e _ => ?_
  rw [← Bool.not_eq_true, isReverted_eq_true_iff, not_and, not_not]

/-- Asking both engines would leave nothing behind. -/
theorem auxClean_both : AuxClean c (R.run (R.revertEngines [.babe, .grandpa]) c n) := by
  rw [auxClean_run_iff]
  intro e _ _
  cases e.kind.engine with
  | babe => exact List.mem_cons_self
  | grandpa => exact List.mem_cons_of_mem _ (List.mem_singleton_self _)

theorem auxClean_command_iff (inv : Weighed c) :
    AuxClean c (R.command c n) ↔ c.revertible n = 0 := by
  rw [RevertChain.command, RevertChain.auxRevert, auxClean_run_iff]
  constructor
  · intro asked
    by_contra some
    have positive := Nat.pos_of_ne_zero some
    have gone := R.removes_best c n positive
    have above : c.finalized < c.best.number := by
      rw [Chain.revertible] at positive
      omega
    have weight := inv.weighed c.best inv.best_mem above
    have engine := asked _ weight ((isReverted_eq_true_iff R c.best).mpr ⟨inv.best_mem, gone⟩)
    cases List.mem_singleton.mp engine
  · intro nothing e _ reverted
    have gone := (isReverted_eq_true_iff R e.block).mp reverted
    rw [R.keeps_blocks c n nothing] at gone
    exact absurd gone.1 gone.2

end Command

/-- Reverts every block above the one that gets the best. -/
def revertAbove : RevertChain where
  revert c n :=
    if c.revertible n = 0 then c
    else
      let number := c.best.number - c.revertible n
      { c with
        blocks := c.blocks.filter fun b => b.number ≤ number
        best := (c.blocks.find? fun b => b.number = number).getD c.best }
  aux_frame := by
    intro c aux n
    have same : Chain.revertible { c with aux := aux } n = c.revertible n := rfl
    rw [same]
    by_cases nothing : c.revertible n = 0
    · rw [if_pos nothing, if_pos nothing]
    · rw [if_neg nothing, if_neg nothing]
  keeps_blocks := by
    intro c n nothing
    rw [if_pos nothing]
  removes_best := by
    intro c n some kept
    rw [if_neg some.ne'] at kept
    have low := of_decide_eq_true (List.mem_filter.mp kept).2
    rw [Chain.revertible] at some low
    omega

def firstBlock : ImportedBlock := ⟨.ofNat 32 1, .ofNat 32 0, 1, true, false⟩

end Solochain
