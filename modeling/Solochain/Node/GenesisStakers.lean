import Mathlib.Data.List.Perm.Subperm
import Solochain.Node.Genesis

/-!
The stakers of the genesis: who validates, and whom the nominators nominate.

The number of nominations is drawn modulo the number of authorities, at most
sixteen.
-/
namespace Solochain

/-- `choose_multiple` picks distinct elements, as many as it is asked for if there
are so many. -/
structure ThreadRng.Lawful (rng : ThreadRng) : Prop where
  chosen : ∀ draw authorities amount,
    (rng.chooseMultiple draw authorities amount).Subperm authorities
  length_eq : ∀ draw authorities amount,
    (rng.chooseMultiple draw authorities amount).length = min amount authorities.length

def validator (a : Authority) : Staker where
  stash := a.stash
  controller := a.controller
  bond := stashAmount
  status := .validator

def nominations (rng : ThreadRng) (authorities : List Authority) (draw : Nat) : List AccountId :=
  (rng.chooseMultiple draw authorities
    (rng.gen draw % min maxNominations authorities.length)).map Authority.stash

def nominator (rng : ThreadRng) (authorities : List Authority) (p : AccountId × Nat) : Staker where
  stash := p.1
  controller := p.1
  bond := stashAmount
  status := .nominator (nominations rng authorities p.2)

/-- What staking genesis asks of a list of nominations. -/
structure NominationsAccepted (authorities : List Authority) (targets : List AccountId) : Prop where
  nonempty : targets ≠ []
  nodup : targets.Nodup
  length_le : targets.length ≤ maxNominations
  stashes : ∀ target ∈ targets, target ∈ authorities.map Authority.stash

section Stakers
variable {rng : ThreadRng} {authorities : List Authority} {nominators : List AccountId}

theorem limit_pos (nonempty : authorities ≠ []) : 0 < min maxNominations authorities.length :=
  Nat.lt_min.mpr ⟨by decide, List.length_pos_iff.mpr nonempty⟩

theorem nominate_eq_ok (nonempty : authorities ≠ []) (x : AccountId) (draw : Nat) :
    nominate rng authorities x draw = .ok (nominator rng authorities (x, draw)) := by
  rw [nominate, if_neg (limit_pos nonempty).ne']
  rfl

theorem stakersOf_eq_ok (nonempty : authorities ≠ [] ∨ nominators = []) :
    stakersOf rng authorities nominators =
      .ok (authorities.map validator ++ nominators.zipIdx.map (nominator rng authorities)) := by
  rcases nonempty with nonempty | rfl
  · have each : (fun p : AccountId × Nat => nominate rng authorities p.1 p.2) =
        fun p => pure (nominator rng authorities p) :=
      funext fun p => nominate_eq_ok nonempty p.1 p.2
    change (do
      let nominating ← nominators.zipIdx.mapM fun p : AccountId × Nat =>
        nominate rng authorities p.1 p.2
      .ok (authorities.map validator ++ nominating)) = _
    rw [each, List.mapM_pure]
    rfl
  · rw [stakersOf, List.zipIdx_nil, List.mapM_nil, List.map_nil]
    rfl

theorem stakersOf_eq_error (nonempty : nominators ≠ []) :
    stakersOf rng [] nominators = .error .remainderByZero := by
  cases nominators with
  | nil => exact absurd rfl nonempty
  | cons x xs =>
      rw [stakersOf, List.zipIdx_cons, List.mapM_cons]
      rfl

theorem stakersOf_eq_ok_iff {stakers : List Staker} :
    stakersOf rng authorities nominators = .ok stakers ↔
      (authorities ≠ [] ∨ nominators = []) ∧
        stakers =
          authorities.map validator ++ nominators.zipIdx.map (nominator rng authorities) := by
  by_cases nonempty : authorities ≠ [] ∨ nominators = []
  · rw [stakersOf_eq_ok nonempty, Except.ok.injEq, and_iff_right nonempty]
    exact eq_comm
  · obtain ⟨none, nominated⟩ := not_or.mp nonempty
    rw [not_not.mp none, stakersOf_eq_error nominated]
    exact iff_of_false nofun fun h => h.1.elim (absurd rfl) nominated

theorem length_nominations (lawful : rng.Lawful) (nonempty : authorities ≠ []) (draw : Nat) :
    (nominations rng authorities draw).length =
      rng.gen draw % min maxNominations authorities.length := by
  have below := Nat.mod_lt (rng.gen draw) (limit_pos nonempty)
  rw [nominations, List.length_map, lawful.length_eq]
  exact Nat.min_eq_left (below.le.trans (Nat.min_le_right _ _))

theorem nominations_subperm (lawful : rng.Lawful) (authorities : List Authority) (draw : Nat) :
    (nominations rng authorities draw).Subperm (authorities.map Authority.stash) := by
  obtain ⟨picked, same, sublist⟩ := lawful.chosen draw authorities
    (rng.gen draw % min maxNominations authorities.length)
  exact ⟨picked.map Authority.stash, same.map _, sublist.map _⟩

theorem nominationsAccepted_iff (lawful : rng.Lawful)
    (distinct : (authorities.map Authority.stash).Nodup) (nonempty : authorities ≠ [])
    (draw : Nat) :
    NominationsAccepted authorities (nominations rng authorities draw) ↔
      rng.gen draw % min maxNominations authorities.length ≠ 0 := by
  have length := length_nominations lawful nonempty draw
  have picked := nominations_subperm lawful authorities draw
  rw [← length, Ne, List.length_eq_zero_iff]
  constructor
  · exact NominationsAccepted.nonempty
  · intro named
    refine ⟨named, ?_, ?_, picked.subset⟩
    · obtain ⟨sub, same, sublist⟩ := picked
      exact same.nodup_iff.mp (distinct.sublist sublist)
    · rw [length]
      exact (Nat.mod_lt _ (limit_pos nonempty)).le.trans (Nat.min_le_left _ _)

theorem mem_stakers_nominator {s : Staker} {targets : List AccountId}
    (h : s ∈ authorities.map validator ++ nominators.zipIdx.map (nominator rng authorities))
    (status : s.status = .nominator targets) :
    ∃ draw < nominators.length, targets = nominations rng authorities draw := by
  rcases List.mem_append.mp h with validating | nominating
  · obtain ⟨a, _, rfl⟩ := List.mem_map.mp validating
    cases status
  · obtain ⟨⟨x, draw⟩, listed, rfl⟩ := List.mem_map.mp nominating
    exact ⟨draw, List.snd_lt_of_mem_zipIdx listed, (StakerStatus.nominator.inj status).symm⟩

theorem nominator_mem_stakers {draw : Nat} (h : draw < nominators.length) :
    nominator rng authorities (nominators[draw], draw) ∈
      authorities.map validator ++ nominators.zipIdx.map (nominator rng authorities) := by
  apply List.mem_append_right
  apply List.mem_map_of_mem
  rw [List.mem_zipIdx_iff_getElem?]
  exact List.getElem?_eq_getElem h

end Stakers

structure StakingAccepted (authorities : List Authority) (nominators : List AccountId)
    (stakers : List Staker) : Prop where
  covered : ∀ x ∈ nominators, ∃ s ∈ stakers, s.stash = x ∧ s.status ≠ .validator
  accepted : ∀ s ∈ stakers, ∀ targets, s.status = .nominator targets →
    NominationsAccepted authorities targets

theorem stakingAccepted_iff {rng : ThreadRng} (lawful : rng.Lawful) {authorities : List Authority}
    (distinct : (authorities.map Authority.stash).Nodup) (nonempty : authorities ≠ [])
    (nominators : List AccountId) :
    StakingAccepted authorities nominators
        (authorities.map validator ++ nominators.zipIdx.map (nominator rng authorities)) ↔
      ∀ draw < nominators.length,
        rng.gen draw % min maxNominations authorities.length ≠ 0 := by
  constructor
  · intro accepted draw bound
    rw [← nominationsAccepted_iff lawful distinct nonempty]
    exact accepted.accepted _ (nominator_mem_stakers bound) _ rfl
  · intro drawn
    constructor
    · intro x hx
      obtain ⟨draw, bound, rfl⟩ := List.mem_iff_getElem.mp hx
      exact ⟨_, nominator_mem_stakers bound, rfl, nofun⟩
    · intro s hs targets status
      obtain ⟨draw, bound, rfl⟩ := mem_stakers_nominator hs status
      exact (nominationsAccepted_iff lawful distinct nonempty draw).mpr (drawn draw bound)

theorem stakingAccepted_nil (rng : ThreadRng) (authorities : List Authority) :
    StakingAccepted authorities []
      (authorities.map validator ++ ([].zipIdx).map (nominator rng authorities)) := by
  constructor
  · exact fun x hx => absurd hx List.not_mem_nil
  · intro s hs targets status
    obtain ⟨draw, bound, _⟩ := mem_stakers_nominator hs status
    exact absurd bound (Nat.not_lt_zero draw)

/-- Without an authority the modulus is zero; a draw that the modulus divides leaves its
nominator without a nomination. -/
theorem testnetGenesis_nominations_iff (rng : ThreadRng) (lawful : rng.Lawful)
    (sudoKey : AccountId) (endowed : List AccountId) (authorities : List Authority)
    (distinct : (authorities.map Authority.stash).Nodup) (nominators : List AccountId)
    (chainId : Nat) :
    (∃ g, testnetGenesis rng sudoKey endowed authorities nominators chainId = .ok g ∧
        StakingAccepted authorities nominators g.staking.stakers) ↔
      nominators = [] ∨ authorities ≠ [] ∧
        ∀ draw < nominators.length,
          rng.gen draw % min maxNominations authorities.length ≠ 0 := by
  constructor
  · rintro ⟨g, built, accepted⟩
    obtain ⟨nonempty, stakers⟩ := stakersOf_eq_ok_iff.mp (testnetGenesis_eq_ok built).stakers
    by_cases none : nominators = []
    · exact Or.inl none
    · have authority := nonempty.resolve_right none
      rw [stakers, stakingAccepted_iff lawful distinct authority] at accepted
      exact Or.inr ⟨authority, accepted⟩
  · intro drawn
    have nonempty : authorities ≠ [] ∨ nominators = [] := drawn.symm.imp_left And.left
    obtain ⟨g, built, stakers⟩ :=
      testnetGenesis_of_stakers sudoKey endowed chainId (stakersOf_eq_ok nonempty)
    refine ⟨g, built, ?_⟩
    rw [stakers]
    rcases drawn with rfl | ⟨authority, drawn⟩
    · exact stakingAccepted_nil rng authorities
    · exact (stakingAccepted_iff lawful distinct authority nominators).mpr drawn

theorem firstRng_lawful : firstRng.Lawful where
  chosen _ authorities amount := (List.take_sublist amount authorities).subperm
  length_eq _ _ _ := List.length_take

theorem lone_authority_not_nominated :
    firstRng.Lawful ∧ ([aliceAuthority].map Authority.stash).Nodup ∧
      ¬ ∃ g, testnetGenesis firstRng alice [alice] [aliceAuthority] [bob] 42 = .ok g ∧
        StakingAccepted [aliceAuthority] [bob] g.staking.stakers := by
  have distinct : ([aliceAuthority].map Authority.stash).Nodup := List.nodup_singleton _
  refine ⟨firstRng_lawful, distinct, ?_⟩
  rintro ⟨g, built, accepted⟩
  have stakers := (stakersOf_eq_ok_iff.mp (testnetGenesis_eq_ok built).stakers).2
  rw [stakers, stakingAccepted_iff firstRng_lawful distinct (List.cons_ne_nil _ _)] at accepted
  exact accepted 0 (by decide) (by decide)

theorem two_authorities_nominated :
    ∃ g, testnetGenesis firstRng alice [alice]
        [aliceAuthority, { aliceAuthority with stash := bobStash }] [bob] 42 = .ok g ∧
      StakingAccepted [aliceAuthority, { aliceAuthority with stash := bobStash }] [bob]
        g.staking.stakers :=
  (testnetGenesis_nominations_iff firstRng firstRng_lawful alice [alice]
    [aliceAuthority, { aliceAuthority with stash := bobStash }] (by decide) [bob] 42).mpr
    (Or.inr ⟨List.cons_ne_nil _ _, fun _ _ => Nat.one_ne_zero⟩)

end Solochain
