import Solochain.Library.Replica
import Solochain.Node.Genesis

/-!
The technical committee at genesis and under the operations of its membership
pallet.

The runtime lets `TechnicalMembership` manage `TechnicalCommittee`, and the genesis
fills the committee alone. How the membership pallet computes a new member list
is code of another crate.
-/
namespace Solochain

inductive MembershipOperation
  | addMember (who : AccountId)
  | removeMember (who : AccountId)
  | swapMember (remove add : AccountId)
  | resetMembers (members : List AccountId)
  | changeKey (who new : AccountId)
  deriving DecidableEq

def MembershipOperation.asksToRemove : MembershipOperation → AccountId → Prop
  | addMember _, _ => False
  | removeMember who, a => a = who
  | swapMember remove _, a => a = remove
  | resetMembers members, a => a ∉ members
  | changeKey who _, a => a = who

def MembershipOperation.asksToAdd : MembershipOperation → AccountId → Prop
  | addMember who, a => a = who
  | removeMember _, _ => False
  | swapMember _ add, a => a = add
  | resetMembers members, a => a ∈ members
  | changeKey _ new, a => a = new

/-- The new list an operation makes of the stored one, if it does not fail. It
leaves out what the operation names for removal, and nothing else. -/
structure MembershipPallet where
  newMembers : MembershipOperation → List AccountId → Option (List AccountId)
  drops_asked : ∀ op members members', newMembers op members = some members' →
    ∀ a ∈ members, a ∉ members' → op.asksToRemove a

/-- `TechnicalMembership` and, as its mirror, `TechnicalCommittee`. A section that
the genesis does not give has no members. -/
def genesisCommittee (g : GenesisConfig) : Replica AccountId where
  owner := g.technicalMembershipMembers.getD []
  mirror := g.technicalCommitteeMembers

/-- In every state reached from the genesis the committee has the members of the
pallet that manages it, and no operation drops a member it does not name. -/
structure CommitteeManaged (M : MembershipPallet) (g : GenesisConfig) : Prop where
  sameMembers : ∀ ops,
    ∀ s ∈ Machine.visited (Replica.change M.newMembers) (genesisCommittee g) ops,
      Replica.InSync s
  noSilentDrop : ∀ ops,
    ∀ s ∈ Machine.visited (Replica.change M.newMembers) (genesisCommittee g) ops,
      Replica.DropsOnly M.newMembers MembershipOperation.asksToRemove s

theorem committeeManaged_iff_inSync (M : MembershipPallet) (g : GenesisConfig) :
    CommitteeManaged M g ↔ Replica.InSync (genesisCommittee g) := by
  constructor
  · intro managed
    exact (Replica.visited_inSync_iff M.newMembers _).mp managed.sameMembers
  · intro start
    have always := (Replica.visited_inSync_iff M.newMembers _).mpr start
    exact
      { sameMembers := always
        noSilentDrop := fun ops s hs =>
          Replica.dropsOnly_of_inSync M.drops_asked (always ops s hs) }

theorem take_half_eq_nil_iff (l : List AccountId) :
    l.take ((l.length + 1) / 2) = [] ↔ l = [] := by
  rw [List.take_eq_nil_iff]
  constructor
  · rintro (none | rfl)
    · exact List.length_eq_zero_iff.mp (by omega)
    · rfl
  · exact Or.inr

/-- The committee is managed as configured only on a chain without any account: the
membership section is not given, so the pallet starts without members. -/
theorem committeeManaged_iff (M : MembershipPallet) (rng : ThreadRng) (sudoKey : AccountId)
    (endowed : List AccountId) (authorities : List Authority) (nominators : List AccountId)
    (chainId : Nat) (g : GenesisConfig)
    (built : testnetGenesis rng sudoKey endowed authorities nominators chainId = .ok g) :
    CommitteeManaged M g ↔ endowed = [] ∧ authorities = [] ∧ nominators = [] := by
  have sections := testnetGenesis_eq_ok built
  rw [committeeManaged_iff_inSync, ← endowAll_eq_nil_iff, ← take_half_eq_nil_iff]
  simp only [Replica.InSync, genesisCommittee, sections.technicalCommittee,
    sections.technicalMembership, Option.getD_none, List.not_mem_nil, iff_false]
  exact List.eq_nil_iff_forall_not_mem.symm

def technicalMaxMembers : Nat := 100

def insertMember (a : AccountId) : List AccountId → List AccountId
  | [] => [a]
  | b :: members => if a.bytes < b.bytes then a :: b :: members else b :: insertMember a members

theorem mem_insertMember (a x : AccountId) (members : List AccountId) :
    x ∈ insertMember a members ↔ x = a ∨ x ∈ members := by
  induction members with
  | nil => simp [insertMember]
  | cons b members ih =>
      rw [insertMember]
      split
      · rw [List.mem_cons]
      · rw [List.mem_cons, ih, List.mem_cons, or_left_comm]

theorem mem_foldr_insertMember (x : AccountId) (members : List AccountId) :
    x ∈ members.foldr insertMember [] ↔ x ∈ members := by
  induction members with
  | nil => rfl
  | cons b members ih => rw [List.foldr_cons, mem_insertMember, ih, List.mem_cons]

def replaceMember (remove add : AccountId) (members : List AccountId) : Option (List AccountId) :=
  if members.contains remove && !members.contains add then
    some (insertMember add (members.erase remove))
  else none

def palletNewMembers : MembershipOperation → List AccountId → Option (List AccountId)
  | .addMember who, members =>
      if members.contains who || technicalMaxMembers ≤ members.length then none
      else some (insertMember who members)
  | .removeMember who, members =>
      if members.contains who then some (members.erase who) else none
  | .swapMember remove add, members => replaceMember remove add members
  | .resetMembers new, _ =>
      if new.length ≤ technicalMaxMembers then some (new.foldr insertMember []) else none
  | .changeKey who new, members => replaceMember who new members

theorem replaceMember_drops {remove add a : AccountId} {members members' : List AccountId}
    (h : replaceMember remove add members = some members') (held : a ∈ members)
    (dropped : a ∉ members') : a = remove := by
  rw [replaceMember] at h
  split at h
  · cases h
    by_contra other
    apply dropped
    rw [mem_insertMember]
    exact Or.inr ((List.mem_erase_of_ne other).mpr held)
  · cases h

def palletMembership : MembershipPallet where
  newMembers := palletNewMembers
  drops_asked := by
    intro op members members' h a held dropped
    cases op with
    | addMember who =>
        simp only [palletNewMembers] at h
        split at h
        · cases h
        · cases h
          exact dropped ((mem_insertMember who a members).mpr (Or.inr held))
    | removeMember who =>
        simp only [palletNewMembers] at h
        split at h
        · cases h
          by_contra other
          exact dropped ((List.mem_erase_of_ne other).mpr held)
        · cases h
    | swapMember remove add => exact replaceMember_drops h held dropped
    | resetMembers new =>
        simp only [palletNewMembers] at h
        split at h
        · cases h
          exact fun listed => dropped ((mem_foldr_insertMember a new).mpr listed)
        · cases h
    | changeKey who new => exact replaceMember_drops h held dropped

theorem replaceMember_adds {remove add a : AccountId} {members members' : List AccountId}
    (h : replaceMember remove add members = some members') (held : a ∈ members')
    (new : a ∉ members) : a = add := by
  rw [replaceMember] at h
  split at h
  · cases h
    obtain same | old := (mem_insertMember add a _).mp held
    · exact same
    · exact absurd (List.mem_of_mem_erase old) new
  · cases h

theorem palletNewMembers_adds (op : MembershipOperation) (members members' : List AccountId)
    (h : palletNewMembers op members = some members') :
    ∀ a ∈ members', a ∉ members → op.asksToAdd a := by
  intro a held new
  cases op with
  | addMember who =>
      simp only [palletNewMembers] at h
      split at h
      · cases h
      · cases h
        exact ((mem_insertMember who a members).mp held).resolve_right new
  | removeMember who =>
      simp only [palletNewMembers] at h
      split at h
      · cases h
        exact new (List.mem_of_mem_erase held)
      · cases h
  | swapMember remove add => exact replaceMember_adds h held new
  | resetMembers reset =>
      simp only [palletNewMembers] at h
      split at h
      · cases h
        exact (mem_foldr_insertMember a reset).mp held
      · cases h
  | changeKey who new' => exact replaceMember_adds h held new

/-- The committee is still that of the genesis, or it has the members of the pallet, and an
operation has named each of them. -/
theorem genesisCommittee_run (M : MembershipPallet)
    (adds_asked : ∀ op members members', M.newMembers op members = some members' →
      ∀ a ∈ members', a ∉ members → op.asksToAdd a)
    (rng : ThreadRng) (sudoKey : AccountId) (endowed : List AccountId)
    (authorities : List Authority) (nominators : List AccountId) (chainId : Nat)
    (g : GenesisConfig)
    (built : testnetGenesis rng sudoKey endowed authorities nominators chainId = .ok g)
    (ops : List MembershipOperation) :
    let s := Machine.run (Replica.change M.newMembers) (genesisCommittee g) ops
    s = genesisCommittee g ∨
      s.mirror = s.owner ∧ ∀ a ∈ s.mirror, ∃ op ∈ ops, op.asksToAdd a := by
  intro s
  obtain same | ⟨synced, named⟩ := Replica.run_eq_or_added adds_asked (genesisCommittee g) ops
  · exact Or.inl same
  · refine Or.inr ⟨synced, fun a held => (named a held).resolve_left ?_⟩
    rw [genesisCommittee, (testnetGenesis_eq_ok built).technicalMembership]
    exact List.not_mem_nil

theorem developmentGenesis_committee_run :
    ∃ g, developmentGenesis firstRng = .ok g ∧
      let ops : List MembershipOperation := [.removeMember alice, .addMember bobStash]
      let s := Machine.run (Replica.change palletMembership.newMembers) (genesisCommittee g) ops
      s = genesisCommittee g ∨
        s.mirror = s.owner ∧ ∀ a ∈ s.mirror, ∃ op ∈ ops, op.asksToAdd a :=
  ⟨_, rfl, genesisCommittee_run palletMembership palletNewMembers_adds firstRng alice
    [alice, bob, aliceStash, bobStash] [aliceAuthority] [] 42 _ rfl _⟩

/-- Adding a member to the committee of the development chain drops Alice. -/
theorem developmentGenesis_committee_dropped :
    ∃ g, developmentGenesis firstRng = .ok g ∧ ¬ CommitteeManaged palletMembership g := by
  refine ⟨_, rfl, ?_⟩
  intro managed
  exact managed.noSilentDrop [] _ (Machine.start_mem_visited _ _ [])
    (.addMember aliceStash) alice (by decide) (by decide)

theorem developmentGenesis_committee_unmanaged :
    ∃ g, developmentGenesis firstRng = .ok g ∧
      (CommitteeManaged palletMembership g ↔
        [alice, bob, aliceStash, bobStash] = [] ∧ [aliceAuthority] = [] ∧
          ([] : List AccountId) = []) := by
  refine ⟨_, rfl, ?_⟩
  exact committeeManaged_iff palletMembership firstRng alice [alice, bob, aliceStash, bobStash]
    [aliceAuthority] [] 42 _ rfl

end Solochain
