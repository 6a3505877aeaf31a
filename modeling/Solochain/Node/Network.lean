import Mathlib.Data.List.Chain
import Solochain.Library.Gossip
import Solochain.Node.ManualSeal
import Solochain.Node.PendingInherents

/-!
Nodes that author blocks through BABE and import the blocks of others, each with a
clock of its own.

What a node puts into its blocks and what it checks them against are two sets of
inherent data providers of the node. The slot claim, BABE's verifier and block
import, and the check of pallet_timestamp belong to other crates; the right to a slot
and the seal of a block are taken as given.
-/
namespace Solochain
namespace Network
open Node
open ManualSeal (ChainState)

structure Header where
  digest : Digest
  timestamp : UInt64
  deriving DecidableEq

/-- A block with its ancestors, the last one first; the genesis block is the empty chain. -/
abbrev Chain := List Header

/-- BABE claims the slot it is called with. -/
structure SlotClaim where
  preDigest : UInt64 → PreDigest
  slot_eq : ∀ slot, (preDigest slot).slot = slot

def SlotClaim.secondaryPlain (authorityIndex : UInt32) : SlotClaim where
  preDigest slot := .secondaryPlain authorityIndex slot
  slot_eq _ := rfl

/-- `MAX_TIMESTAMP_DRIFT_MILLIS`. -/
def maxTimestampDrift : UInt64 := 30_000

/-- The check that pallet_timestamp makes of the timestamp inherent. -/
def checkTimestamp (parentNow clock moment : UInt64) : Bool :=
  moment ≤ clock + maxTimestampDrift && parentNow + Time.minimumPeriod ≤ moment

section Client
variable (B : BabeCrate)

def stateOf : Chain → ChainState
  | [] => { currentSlot := 0, now := 0 }
  | h :: parent =>
      { currentSlot := B.onInitialize (stateOf parent).currentSlot h.digest, now := h.timestamp }

/-- The genesis block counts as one of slot zero. -/
def headSlot : Chain → Option UInt64
  | [] => some 0
  | h :: _ => (B.preDigestOf h.digest).map PreDigest.slot

def executeBlock (parent : Chain) (h : Header) : Except Panic UInt64 :=
  setTimestamp (B.onInitialize (stateOf B parent).currentSlot h.digest) (stateOf B parent).now
    h.timestamp

/-- BABE's block import, which authored and received blocks both pass. -/
def imports (parent : Chain) (h : Header) : Bool :=
  match headSlot B parent, headSlot B (h :: parent) with
  | some parentSlot, some slot => parentSlot < slot && (executeBlock B parent h).isOk
  | _, _ => false

def authorHeader (now : UInt64) (proof : Option Bytes) (claim : SlotClaim) : Option Header := do
  let data ← (InherentData.create (authoringInherents now proof)).toOption
  let slot ← data.slot
  let timestamp ← data.timestamp
  some { digest := [B.digestItem (claim.preDigest slot)], timestamp := timestamp }

def author (parent : Chain) (now : UInt64) (proof : Option Bytes) (claim : SlotClaim) :
    Option Chain :=
  match authorHeader B now proof claim with
  | some h => if imports B parent h then some (h :: parent) else none
  | none => none

/-- BABE's verifier, at wall-clock time `now`. -/
def verify (now targetGasPrice : UInt64) (parent : Chain) (h : Header) : Bool :=
  match InherentData.create (importInherents now targetGasPrice) with
  | .error _ => false
  | .ok data =>
      match data.slot, data.timestamp, headSlot B (h :: parent) with
      | some slotNow, some clock, some slot =>
          slot ≤ slotNow + 1 && checkTimestamp (stateOf B parent).now clock h.timestamp
      | _, _, _ => false

def accepts (now targetGasPrice : UInt64) : Chain → Bool
  | [] => false
  | h :: parent => verify B now targetGasPrice parent h && imports B parent h

end Client

structure State (ι : Type) where
  trees : ι → List Chain
  sent : List Chain

/-- What happens at one node, at the time its clock shows. Anyone may send anything. -/
inductive Action (ι : Type)
  | author (node : ι) (parent : Chain) (now : UInt64) (proof : Option Bytes) (claim : SlotClaim)
  | deliver (node : ι) (block : Chain) (now : UInt64)
  | forge (block : Chain)

variable {ι : Type}

def genesis : State ι := { trees := fun _ => [[]], sent := [] }

def step [DecidableEq ι] (B : BabeCrate) (targetGasPrice : ι → UInt64) (s : State ι) :
    Action ι → State ι
  | .author node parent now proof claim =>
      if parent ∈ s.trees node then
        match author B parent now proof claim with
        | some block =>
            { trees := Function.update s.trees node (block :: s.trees node)
              sent := s.sent ++ [block] }
        | none => s
      else s
  | .deliver node block now =>
      if block ∈ s.sent then
        { s with
          trees := Function.update s.trees node
            (Gossip.receive List.tail (accepts B now (targetGasPrice node)) (s.trees node) block) }
      else s
  | .forge block => { s with sent := s.sent ++ [block] }

variable {B : BabeCrate}

def claimedHeader (B : BabeCrate) (now : UInt64) (claim : SlotClaim) : Header where
  digest := [B.digestItem (claim.preDigest (Babe.slotOf now))]
  timestamp := now

theorem authorHeader_eq (B : BabeCrate) (now : UInt64) (proof : Option Bytes)
    (claim : SlotClaim) :
    authorHeader B now proof claim = some (claimedHeader B now claim) := by
  rw [authorHeader, create_authoringInherents]
  cases proof with
  | none => rfl
  | some proof => rfl

@[simp] theorem claimedHeader_timestamp (B : BabeCrate) (now : UInt64) (claim : SlotClaim) :
    (claimedHeader B now claim).timestamp = now := rfl

theorem author_eq (B : BabeCrate) (parent : Chain) (now : UInt64) (proof : Option Bytes)
    (claim : SlotClaim) :
    author B parent now proof claim =
      if imports B parent (claimedHeader B now claim) then
        some (claimedHeader B now claim :: parent)
      else none := by
  rw [author, authorHeader_eq]

theorem verify_eq (B : BabeCrate) (now targetGasPrice : UInt64) (parent : Chain) (h : Header) :
    verify B now targetGasPrice parent h =
      match headSlot B (h :: parent) with
      | some slot =>
          slot ≤ Babe.slotOf now + 1 && checkTimestamp (stateOf B parent).now now h.timestamp
      | none => false := by
  rw [verify, create_importInherents]
  cases headSlot B (h :: parent) with
  | none => rfl
  | some slot => rfl

/-- What an imported block has in common with its parent. -/
structure Linked (B : BabeCrate) (parent : Chain) (h : Header) : Prop where
  digest : headSlot B (h :: parent) = some (Babe.slotOf h.timestamp)
  later : ∃ parentSlot, headSlot B parent = some parentSlot ∧
    parentSlot < Babe.slotOf h.timestamp
  notEarly : ¬ ((stateOf B parent).now ≠ 0 ∧
    h.timestamp < (stateOf B parent).now + Time.minimumPeriod)

theorem onInitialize_of_headSlot {parent : Chain} {h : Header} {slot : UInt64}
    (currentSlot : UInt64) (found : headSlot B (h :: parent) = some slot) :
    B.onInitialize currentSlot h.digest = slot := by
  obtain ⟨d, digest, rfl⟩ := Option.map_eq_some_iff.mp found
  rw [BabeCrate.onInitialize, digest]

theorem linked_of_imports {parent : Chain} {h : Header} (imported : imports B parent h = true) :
    Linked B parent h := by
  rw [imports] at imported
  split at imported
  · rename_i parentSlot slot parentFound found
    obtain ⟨later, executed⟩ := Bool.and_eq_true_iff.mp imported
    cases run : executeBlock B parent h with
    | error e =>
        rw [run] at executed
        cases executed
    | ok now =>
        obtain ⟨_, current⟩ := setTimestamp_eq_ok run
        rw [onInitialize_of_headSlot _ found] at current
        subst current
        refine ⟨found, ⟨parentSlot, parentFound, of_decide_eq_true later⟩, ?_⟩
        exact not_early_of_setTimestamp run
  · cases imported

def Valid (B : BabeCrate) : Chain → Prop
  | [] => True
  | h :: parent => imports B parent h = true ∧ Valid B parent

structure After (later earlier : Header) : Prop where
  slot : Babe.slotOf earlier.timestamp < Babe.slotOf later.timestamp
  spacing : earlier.timestamp.toNat + Time.minimumPeriod.toNat ≤ later.timestamp.toNat

instance : Trans After After After where
  trans first second :=
    { slot := UInt64.lt_trans second.slot first.slot
      spacing := (second.spacing.trans (Nat.le_add_right _ _)).trans first.spacing }

/-- The last slot of the clock leaves no room for a child, so nothing wraps around. -/
theorem Linked.after {parent : Chain} {h p : Header} (link : Linked B (p :: parent) h)
    (parentLink : Linked B parent p) : After h p := by
  obtain ⟨parentSlot, found, later⟩ := link.later
  rw [parentLink.digest] at found
  cases found
  refine ⟨later, ?_⟩
  have notEarly : ¬ (p.timestamp ≠ 0 ∧ h.timestamp < p.timestamp + Time.minimumPeriod) :=
    link.notEarly
  have period : Time.minimumPeriod.toNat = 3000 := rfl
  have bound := h.timestamp.toNat_lt
  rw [UInt64.lt_iff_toNat_lt, Babe.toNat_slotOf, Babe.toNat_slotOf] at later
  by_cases first : p.timestamp = 0
  · rw [first, UInt64.toNat_zero] at later ⊢
    omega
  · have onTime : ¬ h.timestamp < p.timestamp + Time.minimumPeriod :=
      fun early => notEarly ⟨first, early⟩
    rw [UInt64.lt_iff_toNat_lt, UInt64.toNat_add, period] at onTime
    omega

theorem isChain_of_valid {c : Chain} (valid : Valid B c) : c.IsChain After := by
  induction c with
  | nil => exact List.IsChain.nil
  | cons h parent ih =>
      cases parent with
      | nil => exact List.IsChain.singleton h
      | cons p rest =>
          refine List.isChain_cons_cons.mpr ⟨?_, ih valid.2⟩
          exact (linked_of_imports valid.1).after (linked_of_imports valid.2.1)

theorem length_le_headSlot {c : Chain} (valid : Valid B c) :
    ∃ slot, headSlot B c = some slot ∧ c.length ≤ slot.toNat := by
  induction c with
  | nil => exact ⟨0, rfl, Nat.zero_le _⟩
  | cons h parent ih =>
      have link := linked_of_imports valid.1
      obtain ⟨slot, found, length⟩ := ih valid.2
      obtain ⟨parentSlot, found', later⟩ := link.later
      rw [found] at found'
      cases found'
      refine ⟨_, link.digest, ?_⟩
      exact Nat.lt_of_le_of_lt length (UInt64.lt_iff_toNat_lt.mp later)

/-- The clock of a chain: each block has a slot and at least the minimum period of its
own, and all blocks together have had a slot duration each. -/
structure Paced (B : BabeCrate) (c : Chain) : Prop where
  slots : c.Pairwise fun later earlier =>
    Babe.slotOf earlier.timestamp < Babe.slotOf later.timestamp
  spacing : c.Pairwise fun later earlier =>
    earlier.timestamp.toNat + Time.minimumPeriod.toNat ≤ later.timestamp.toNat
  digests : ∀ h ∈ c,
    (B.preDigestOf h.digest).map PreDigest.slot = some (Babe.slotOf h.timestamp)
  age : ∀ h ∈ c.head?, Babe.slotDuration.toNat * c.length ≤ h.timestamp.toNat

theorem digests_of_valid {c : Chain} (valid : Valid B c) :
    ∀ h ∈ c, (B.preDigestOf h.digest).map PreDigest.slot = some (Babe.slotOf h.timestamp) := by
  induction c with
  | nil => simp
  | cons h parent ih =>
      rw [List.forall_mem_cons]
      exact ⟨(linked_of_imports valid.1).digest, ih valid.2⟩

theorem paced_of_valid {c : Chain} (valid : Valid B c) : Paced B c := by
  have after := List.isChain_iff_pairwise.mp (isChain_of_valid valid)
  refine ⟨after.imp After.slot, after.imp After.spacing, digests_of_valid valid, ?_⟩
  intro h head
  cases c with
  | nil => cases head
  | cons first parent =>
      cases head
      obtain ⟨slot, found, length⟩ := length_le_headSlot valid
      rw [(linked_of_imports valid.1).digest] at found
      cases found
      have duration : Babe.slotDuration.toNat = 6000 := rfl
      rw [Babe.toNat_slotOf] at length
      rw [duration]
      omega

/-- What holds of the trees at all nodes. -/
def Sound (B : BabeCrate) (s : State ι) : Prop :=
  ∀ node, [] ∈ s.trees node ∧ ∀ c ∈ s.trees node, Valid B c ∧ c.tail ∈ s.trees node

theorem sound_genesis : Sound B (genesis : State ι) := by
  intro node
  refine ⟨List.mem_singleton_self _, ?_⟩
  intro c hc
  rw [List.mem_singleton.mp hc]
  exact ⟨trivial, List.mem_singleton_self _⟩

/-- What holds of the blocks sent as long as nobody forges any. -/
structure Announced (B : BabeCrate) (s : State ι) : Prop where
  order : Gossip.Ordered List.tail [[]] s.sent
  valid : ∀ block ∈ s.sent, Valid B block ∧ block ≠ []
  held : ∀ node, ∀ c ∈ s.trees node, c = [] ∨ c ∈ s.sent

theorem announced_genesis : Sound B (genesis : State ι) ∧ Announced B (genesis : State ι) := by
  refine ⟨sound_genesis, trivial, ?_, ?_⟩
  · intro block hb
    cases hb
  · intro node c hc
    exact Or.inl (List.mem_singleton.mp hc)

theorem valid_of_author {parent block : Chain} {now : UInt64} {proof : Option Bytes}
    {claim : SlotClaim} (authored : author B parent now proof claim = some block)
    (valid : Valid B parent) : Valid B block ∧ block.tail = parent := by
  rw [author_eq] at authored
  split at authored
  · rename_i imported
    cases authored
    exact ⟨⟨imported, valid⟩, rfl⟩
  · cases authored

theorem valid_of_accepts {block : Chain} {now targetGasPrice : UInt64}
    (accepted : accepts B now targetGasPrice block = true) (valid : Valid B block.tail) :
    Valid B block := by
  cases block with
  | nil => trivial
  | cons h parent => exact ⟨(Bool.and_eq_true_iff.mp accepted).2, valid⟩

variable [DecidableEq ι]

theorem sound_update {s : State ι} (sound : Sound B s) (node : ι) {tree sent : List Chain}
    (grows : s.trees node ⊆ tree)
    (valid : ∀ c ∈ tree, c ∈ s.trees node ∨ Valid B c ∧ c.tail ∈ s.trees node) :
    Sound B { trees := Function.update s.trees node tree, sent := sent } := by
  intro other
  by_cases same : other = node
  · subst same
    dsimp only
    rw [Function.update_self]
    refine ⟨grows (sound other).1, ?_⟩
    intro c hc
    obtain old | new := valid c hc
    · exact ⟨((sound other).2 c old).1, grows ((sound other).2 c old).2⟩
    · exact ⟨new.1, grows new.2⟩
  · dsimp only
    rw [Function.update_of_ne same]
    exact sound other

theorem sound_step (targetGasPrice : ι → UInt64) (s : State ι) (a : Action ι)
    (sound : Sound B s) : Sound B (step B targetGasPrice s a) := by
  cases a with
  | author node parent now proof claim =>
      simp only [step]
      split
      · rename_i held
        split
        · rename_i block authored
          obtain ⟨valid, tail⟩ := valid_of_author authored ((sound node).2 parent held).1
          refine sound_update sound node (List.subset_cons_self _ _) ?_
          intro c hc
          obtain rfl | old := List.mem_cons.mp hc
          · exact Or.inr ⟨valid, tail ▸ held⟩
          · exact Or.inl old
        · exact sound
      · exact sound
  | deliver node block now =>
      simp only [step]
      split
      · refine sound_update sound node (Gossip.subset_receive _ _ _) ?_
        intro c hc
        obtain old | ⟨rfl, known, accepted⟩ := Gossip.mem_receive hc
        · exact Or.inl old
        · exact Or.inr ⟨valid_of_accepts accepted ((sound node).2 _ known).1, known⟩
      · exact sound
  | forge block => exact sound

/-- Whatever is sent, forged blocks included, and in whatever order it arrives, at every
node every block has its ancestors, and its chain keeps to the slots and to the
minimum period. -/
theorem visited_paced (B : BabeCrate) (targetGasPrice : ι → UInt64) (as : List (Action ι)) :
    ∀ s ∈ Machine.visited (step B targetGasPrice) genesis as,
      ∀ node, ∀ c ∈ s.trees node, c.tail ∈ s.trees node ∧ Paced B c := by
  intro s hs node c hc
  have sound := Machine.visited_of_preserved (sound_step targetGasPrice) sound_genesis as s hs
  obtain ⟨valid, ancestor⟩ := (sound node).2 c hc
  exact ⟨ancestor, paced_of_valid valid⟩

theorem visited_paced_sample :
    Paced scaleBabe [claimedHeader scaleBabe 1_700_000_004_000 (.secondaryPlain 0)] := by
  let as : List (Action Bool) := [.author false [] 1_700_000_004_000 none (.secondaryPlain 0)]
  have last := Machine.run_eq_getLast_visited (step scaleBabe fun _ => 1) genesis as
  exact (visited_paced scaleBabe (fun _ => 1) as _ (List.mem_of_getLast? last) false _
    (by decide)).2

theorem headSlot_of_valid {c : Chain} (valid : Valid B c) :
    headSlot B c = some (Babe.slotOf (stateOf B c).now) := by
  cases c with
  | nil =>
      have zero : Babe.slotOf 0 = 0 := by decide
      exact congrArg some zero.symm
  | cons h parent => exact (linked_of_imports valid.1).digest

/-- A node authors over a block exactly when its clock shows a later slot and the
minimum period has passed. -/
theorem author_isSome_iff {parent : Chain} (valid : Valid B parent) (now : UInt64)
    (proof : Option Bytes) (claim : SlotClaim) :
    (author B parent now proof claim).isSome ↔
      Babe.slotOf (stateOf B parent).now < Babe.slotOf now ∧
        (stateOf B parent).now.toNat + Time.minimumPeriod.toNat ≤ now.toNat := by
  have slot : headSlot B (claimedHeader B now claim :: parent) = some (Babe.slotOf now) := by
    rw [headSlot, claimedHeader, B.preDigestOf_digestItem, Option.map_some, claim.slot_eq]
  rw [author_eq]
  constructor
  · intro authored
    split at authored
    · rename_i imported
      have link := linked_of_imports imported
      obtain ⟨parentSlot, found, later⟩ := link.later
      rw [headSlot_of_valid valid] at found
      cases found
      refine ⟨later, ?_⟩
      cases parent with
      | nil =>
          rw [UInt64.lt_iff_toNat_lt, Babe.toNat_slotOf, Babe.toNat_slotOf,
            claimedHeader_timestamp] at later
          have start : (stateOf B []).now.toNat = 0 := rfl
          have period : Time.minimumPeriod.toNat = 3000 := rfl
          rw [start, period]
          omega
      | cons p rest => exact (link.after (linked_of_imports valid.1)).spacing
    · cases authored
  · rintro ⟨later, period⟩
    have executed : executeBlock B parent (claimedHeader B now claim) = .ok now := by
      rw [executeBlock, claimedHeader, B.onInitialize_digestItem, claim.slot_eq]
      exact setTimestamp_of_slotOf period
    have imported : imports B parent (claimedHeader B now claim) = true := by
      rw [imports, headSlot_of_valid valid, slot, executed]
      exact Bool.and_eq_true_iff.mpr ⟨decide_eq_true later, rfl⟩
    rw [if_pos imported]
    rfl

theorem checkTimestamp_of_linked {parent : Chain} {h : Header} (link : Linked B parent h)
    (valid : Valid B parent) {reading : UInt64}
    (clock : reading.toNat + maxTimestampDrift.toNat < 2 ^ 64)
    (slot : (Babe.slotOf h.timestamp).toNat ≤ (Babe.slotOf reading).toNat + 1) :
    checkTimestamp (stateOf B parent).now reading h.timestamp = true := by
  obtain ⟨parentSlot, found, later⟩ := link.later
  rw [headSlot_of_valid valid] at found
  cases found
  have drift : maxTimestampDrift.toNat = 30000 := rfl
  have period : Time.minimumPeriod.toNat = 3000 := rfl
  rw [drift] at clock
  rw [Babe.toNat_slotOf, Babe.toNat_slotOf] at slot
  rw [UInt64.lt_iff_toNat_lt, Babe.toNat_slotOf, Babe.toNat_slotOf] at later
  refine Bool.and_eq_true_iff.mpr ⟨decide_eq_true ?_, decide_eq_true ?_⟩
  · rw [UInt64.le_iff_toNat_le, UInt64.toNat_add, drift]
    omega
  · by_cases first : (stateOf B parent).now = 0
    · rw [first, UInt64.le_iff_toNat_le, UInt64.zero_add, period]
      omega
    · exact UInt64.not_lt.mp fun early => link.notEarly ⟨first, early⟩

/-- Of a block that can be imported a node asks only that its slot be at most one
ahead: the check of the timestamp then passes by itself. -/
theorem accepts_iff {parent : Chain} {h : Header} (imported : imports B parent h = true)
    (valid : Valid B parent) {reading : UInt64}
    (clock : reading.toNat + maxTimestampDrift.toNat < 2 ^ 64) (targetGasPrice : UInt64) :
    accepts B reading targetGasPrice (h :: parent) = true ↔
      (Babe.slotOf h.timestamp).toNat ≤ (Babe.slotOf reading).toNat + 1 := by
  have link := linked_of_imports imported
  have next : (Babe.slotOf reading + 1).toNat = (Babe.slotOf reading).toNat + 1 := by
    have small := Babe.toNat_slotOf reading
    have one : (1 : UInt64).toNat = 1 := rfl
    rw [UInt64.toNat_add, one]
    exact Nat.mod_eq_of_lt (by omega)
  rw [accepts, imported, Bool.and_true, verify_eq, link.digest, ← next, ← UInt64.le_iff_toNat_le]
  constructor
  · intro verified
    exact of_decide_eq_true (Bool.and_eq_true_iff.mp verified).1
  · intro slot
    have atMost := UInt64.le_iff_toNat_le.mp slot
    rw [next] at atMost
    exact Bool.and_eq_true_iff.mpr
      ⟨decide_eq_true slot, checkTimestamp_of_linked link valid clock atMost⟩

theorem sent_step (targetGasPrice : ι → UInt64) (s : State ι) (a : Action ι) :
    s.sent ⊆ (step B targetGasPrice s a).sent := by
  cases a with
  | author node parent now proof claim =>
      simp only [step]
      split
      · split
        · exact List.subset_append_left _ _
        · exact List.Subset.refl _
      · exact List.Subset.refl _
  | deliver node block now =>
      simp only [step]
      split
      · exact List.Subset.refl _
      · exact List.Subset.refl _
  | forge block => exact List.subset_append_left _ _

theorem sent_run (targetGasPrice : ι → UInt64) (s : State ι) (as : List (Action ι))
    {block : Chain} (h : block ∈ s.sent) :
    block ∈ (Machine.run (step B targetGasPrice) s as).sent :=
  Machine.run_of_preserved (I := fun s => block ∈ s.sent)
    (fun s a held => sent_step targetGasPrice s a held) h as

theorem mem_deliver_iff (targetGasPrice : ι → UInt64) {s : State ι} {peer : ι} {h : Header}
    {parent : Chain} (sent : h :: parent ∈ s.sent) (known : parent ∈ s.trees peer)
    (reading : UInt64) :
    h :: parent ∈ (step B targetGasPrice s (.deliver peer (h :: parent) reading)).trees peer ↔
      h :: parent ∈ s.trees peer ∨
        accepts B reading (targetGasPrice peer) (h :: parent) = true := by
  simp only [step, if_pos sent, Function.update_self]
  constructor
  · intro held
    obtain old | ⟨_, _, accepted⟩ := Gossip.mem_receive held
    · exact Or.inl old
    · exact Or.inr accepted
  · rintro (old | accepted)
    · exact Gossip.subset_receive _ _ _ old
    · exact Gossip.mem_receive_self known accepted

theorem sent_author (targetGasPrice : ι → UInt64) {s : State ι} {node : ι} {parent block : Chain}
    {now : UInt64} {proof : Option Bytes} {claim : SlotClaim}
    (held : parent ∈ s.trees node) (authored : author B parent now proof claim = some block) :
    block ∈ (step B targetGasPrice s (.author node parent now proof claim)).sent := by
  simp only [step, if_pos held, authored]
  exact List.mem_append_right _ (List.mem_singleton_self block)

def Action.Honest : Action ι → Prop
  | .forge _ => False
  | _ => True

theorem announced_author {s : State ι} {node : ι} {parent block : Chain}
    (announced : Announced B s) (held : parent ∈ s.trees node) (valid : Valid B block)
    (nonempty : block ≠ []) (tail : block.tail = parent) :
    Announced B { trees := Function.update s.trees node (block :: s.trees node)
                  sent := s.sent ++ [block] } := by
  refine ⟨?_, ?_, ?_⟩
  · refine announced.order.concat ?_
    rw [tail]
    exact (announced.held node parent held).imp_left List.mem_singleton.mpr
  · intro b hb
    obtain old | new := List.mem_append.mp hb
    · exact announced.valid b old
    · rw [List.mem_singleton.mp new]
      exact ⟨valid, nonempty⟩
  · intro other c hc
    have sent (old : c ∈ s.trees other) : c = [] ∨ c ∈ s.sent ++ [block] :=
      (announced.held other c old).imp_right (List.mem_append_left [block])
    by_cases same : other = node
    · subst same
      dsimp only at hc
      rw [Function.update_self] at hc
      obtain rfl | old := List.mem_cons.mp hc
      · exact Or.inr (List.mem_append_right _ (List.mem_singleton_self _))
      · exact sent old
    · dsimp only at hc
      rw [Function.update_of_ne same] at hc
      exact sent hc

theorem announced_step (targetGasPrice : ι → UInt64) (s : State ι) (a : Action ι)
    (honest : a.Honest) (h : Sound B s ∧ Announced B s) :
    Sound B (step B targetGasPrice s a) ∧ Announced B (step B targetGasPrice s a) := by
  obtain ⟨sound, announced⟩ := h
  refine ⟨sound_step targetGasPrice s a sound, ?_⟩
  cases a with
  | author node parent now proof claim =>
      simp only [step, author_eq]
      split
      · rename_i held
        split
        · rename_i block authored
          split at authored
          · rename_i imported
            cases authored
            have valid := ((sound node).2 parent held).1
            exact announced_author announced held ⟨imported, valid⟩
              (List.cons_ne_nil _ _) rfl
          · cases authored
        · exact announced
      · exact announced
  | deliver node block now =>
      simp only [step]
      split
      · rename_i sent
        refine ⟨announced.order, announced.valid, ?_⟩
        intro other c hc
        by_cases same : other = node
        · subst same
          dsimp only at hc
          rw [Function.update_self] at hc
          obtain old | ⟨rfl, _⟩ := Gossip.mem_receive hc
          · exact announced.held other c old
          · exact Or.inr sent
        · dsimp only at hc
          rw [Function.update_of_ne same] at hc
          exact announced.held other c hc
      · exact announced
  | forge block => exact honest.elim

/-- Deliveries to one node, each at its own reading of the clock. -/
def deliveries (node : ι) (reading : Chain → UInt64) (blocks : List Chain) : List (Action ι) :=
  blocks.map fun block => .deliver node block (reading block)

theorem run_deliveries (targetGasPrice : ι → UInt64) (node : ι) (reading : Chain → UInt64)
    {s : State ι} {blocks : List Chain} (sent : ∀ block ∈ blocks, block ∈ s.sent) :
    (Machine.run (step B targetGasPrice) s (deliveries node reading blocks)).trees node =
      Gossip.receiveAll List.tail (s.trees node)
        (blocks.map fun block => (block, accepts B (reading block) (targetGasPrice node))) := by
  induction blocks generalizing s with
  | nil => rfl
  | cons block blocks ih =>
      rw [List.forall_mem_cons] at sent
      have kept : ∀ b ∈ blocks,
          b ∈ (step B targetGasPrice s (.deliver node block (reading block))).sent :=
        fun b hb => sent_step targetGasPrice s _ (sent.2 b hb)
      have taken : (step B targetGasPrice s (.deliver node block (reading block))).trees node =
          Gossip.receive List.tail (accepts B (reading block) (targetGasPrice node))
            (s.trees node) block := by
        rw [step, if_pos sent.1]
        exact Function.update_self ..
      rw [deliveries, List.map_cons, Machine.run_cons, ← deliveries, ih kept, taken]
      rfl

end Network
end Solochain
