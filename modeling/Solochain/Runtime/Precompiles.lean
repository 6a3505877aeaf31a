import Solochain.Library.Dispatch
import Solochain.Runtime.Types

/-!
The precompiles of the EVM, listed twice in the runtime.

`execute` matches on the code address and `is_precompile` looks into a list of
addresses. What a precompile does is code of other crates and enters as a
parameter.
-/
namespace Solochain

namespace H160

/-- The number in the low eight bytes, zeros above. -/
def fromLowU64BE (a : UInt64) : H160 :=
  ⟨List.replicate 12 0 ++ FixedBytes.bigEndian 8 a.toNat, by
    rw [List.length_append, List.length_replicate, FixedBytes.length_bigEndian]⟩

theorem toNatBE_fromLowU64BE (a : UInt64) : (fromLowU64BE a).toNatBE = a.toNat := by
  rw [FixedBytes.toNatBE, fromLowU64BE, FixedBytes.fromBigEndian_replicate_append]
  exact FixedBytes.fromBigEndian_bigEndian 8 _ a.toNat_lt

theorem eq_fromLowU64BE_iff (address : H160) (a : UInt64) :
    address = fromLowU64BE a ↔ address.toNatBE = a.toNat := by
  rw [← FixedBytes.toNatBE_inj, toNatBE_fromLowU64BE]

theorem fromLowU64BE_high (a : UInt64) :
    ∀ b ∈ (fromLowU64BE a).bytes.take 12, b = 0 := by
  intro b hb
  rw [fromLowU64BE, List.take_left' List.length_replicate] at hb
  exact List.eq_of_mem_replicate hb

end H160

inductive Precompile
  | ecRecover
  | sha256
  | ripemd160
  | identity
  | modexp
  | sha3FIPS256
  | ecRecoverPublicKey
  deriving DecidableEq

/-- A handle is its code address and whatever else the execution works on. -/
structure PrecompileHandle (State : Type) where
  codeAddress : H160
  state : State

inductive IsPrecompileResult
  | answer (isPrecompile : Bool) (extraCost : UInt64)
  | outOfGas
  deriving DecidableEq

namespace FrontierPrecompiles

def hash (a : UInt64) : H160 := .fromLowU64BE a

def usedAddresses : List H160 :=
  [hash 1, hash 2, hash 3, hash 4, hash 5, hash 1024, hash 1025]

def isPrecompile (address : H160) (_gas : UInt64) : IsPrecompileResult :=
  .answer (usedAddresses.contains address) 0

section Execute
variable {State Result : Type}
variable (run : Precompile → PrecompileHandle State → Result × PrecompileHandle State)

def execute (handle : PrecompileHandle State) : Option (Result × PrecompileHandle State) :=
  let a := handle.codeAddress
  if a = hash 1 then some (run .ecRecover handle)
  else if a = hash 2 then some (run .sha256 handle)
  else if a = hash 3 then some (run .ripemd160 handle)
  else if a = hash 4 then some (run .identity handle)
  else if a = hash 5 then some (run .modexp handle)
  else if a = hash 1024 then some (run .sha3FIPS256 handle)
  else if a = hash 1025 then some (run .ecRecoverPublicKey handle)
  else none

end Execute

structure Arm where
  number : UInt64
  precompile : Precompile
  deriving DecidableEq

/-- The arms of `execute` in their order. -/
def arms : List Arm :=
  [⟨1, .ecRecover⟩, ⟨2, .sha256⟩, ⟨3, .ripemd160⟩, ⟨4, .identity⟩, ⟨5, .modexp⟩,
    ⟨1024, .sha3FIPS256⟩, ⟨1025, .ecRecoverPublicKey⟩]

def Arm.Matches (arm : Arm) (address : H160) : Prop := address = hash arm.number

def table : List (H160 × Precompile) := arms.map fun arm => (hash arm.number, arm.precompile)

theorem keys_table : Dispatch.keys table = usedAddresses := rfl

theorem Arm.matches_iff (arm : Arm) (address : H160) :
    arm.Matches address ↔ address.toNatBE = arm.number.toNat :=
  H160.eq_fromLowU64BE_iff address arm.number

theorem hash_injective {a b : UInt64} (h : hash a = hash b) : a = b := by
  have number := (H160.eq_fromLowU64BE_iff (hash a) b).mp h
  rw [hash, H160.toNatBE_fromLowU64BE] at number
  exact UInt64.toNat_inj.mp number

theorem nodup_numbers : (arms.map Arm.number).Nodup := by decide

theorem nodup_usedAddresses : usedAddresses.Nodup :=
  nodup_numbers.map fun _ _ => hash_injective

theorem arm_unique {address : H160} {arm arm' : Arm} (listed : arm ∈ arms) (listed' : arm' ∈ arms)
    (h : arm.Matches address) (h' : arm'.Matches address) : arm = arm' :=
  List.inj_on_of_nodup_map nodup_numbers listed listed' (hash_injective (h.symm.trans h'))

theorem lookup_table_iff (address : H160) (precompile : Precompile) :
    table.lookup address = some precompile ↔
      ∃ arm ∈ arms, arm.Matches address ∧ arm.precompile = precompile := by
  rw [Dispatch.lookup_eq_some_iff_mem (keys_table ▸ nodup_usedAddresses), table, List.mem_map]
  refine ⟨fun entered => ?_, fun matching => ?_⟩
  · obtain ⟨arm, listed, entry⟩ := entered
    obtain ⟨matched, precompile⟩ := Prod.mk.inj entry
    exact ⟨arm, listed, matched.symm, precompile⟩
  · obtain ⟨arm, listed, matched, rfl⟩ := matching
    exact ⟨arm, listed, Prod.ext matched.symm rfl⟩

variable {State Result : Type}
variable (run : Precompile → PrecompileHandle State → Result × PrecompileHandle State)

theorem execute_eq_lookup (handle : PrecompileHandle State) :
    execute run handle =
      (table.lookup handle.codeAddress).map fun precompile => run precompile handle := by
  simp only [table, arms, List.map_cons, List.map_nil, Dispatch.map_lookup_cons, List.lookup_nil,
    Option.map_none]
  rfl

theorem isPrecompile_eq (handle : PrecompileHandle State) (gas : UInt64) :
    isPrecompile handle.codeAddress gas = .answer (execute run handle).isSome 0 := by
  rw [execute_eq_lookup, Option.isSome_map, Dispatch.lookup_isSome_eq_contains, keys_table,
    isPrecompile]

theorem execute_eq_some_iff (handle : PrecompileHandle State)
    (result : Result × PrecompileHandle State) :
    execute run handle = some result ↔
      ∃ arm ∈ arms, arm.Matches handle.codeAddress ∧ run arm.precompile handle = result := by
  rw [execute_eq_lookup, Option.map_eq_some_iff]
  refine ⟨fun executed => ?_, fun matching => ?_⟩
  · obtain ⟨precompile, found, rfl⟩ := executed
    obtain ⟨arm, listed, matched, rfl⟩ := (lookup_table_iff _ _).mp found
    exact ⟨arm, listed, matched, rfl⟩
  · obtain ⟨arm, listed, matched, rfl⟩ := matching
    exact ⟨arm.precompile, (lookup_table_iff _ _).mpr ⟨arm, listed, matched, rfl⟩, rfl⟩

theorem usedAddresses_high {address : H160} (h : address ∈ usedAddresses) :
    ∀ b ∈ address.bytes.take 12, b = 0 := by
  have hashed : usedAddresses = (arms.map Arm.number).map hash := rfl
  rw [hashed] at h
  obtain ⟨number, _, rfl⟩ := List.mem_map.mp h
  exact H160.fromLowU64BE_high number

theorem isPrecompile_of_high {address : H160} (gas : UInt64)
    (high : ∃ b ∈ address.bytes.take 12, b ≠ 0) : isPrecompile address gas = .answer false 0 := by
  obtain ⟨b, inside, nonzero⟩ := high
  have unused : address ∉ usedAddresses := fun used =>
    nonzero (usedAddresses_high used b inside)
  rw [isPrecompile, List.contains_eq_mem, decide_eq_false unused]

/-- The list of addresses and the match agree on every address. -/
theorem precompiles_agree (address : H160) (gas : UInt64) (state : State) :
    isPrecompile address gas =
        .answer (execute run { codeAddress := address, state := state }).isSome 0 ∧
      (∀ result, execute run { codeAddress := address, state := state } = some result ↔
        ∃ arm ∈ arms, arm.Matches address ∧
          run arm.precompile { codeAddress := address, state := state } = result) ∧
      (∀ arm ∈ arms, arm.Matches address ↔ address.toNatBE = arm.number.toNat) ∧
      (∀ arm ∈ arms, ∀ arm' ∈ arms, arm.Matches address → arm'.Matches address → arm = arm') ∧
      ((∃ b ∈ address.bytes.take 12, b ≠ 0) →
        isPrecompile address gas = .answer false 0 ∧
          execute run { codeAddress := address, state := state } = none) := by
  have answers := isPrecompile_eq run { codeAddress := address, state := state } gas
  refine ⟨answers, execute_eq_some_iff run { codeAddress := address, state := state },
    fun arm _ => arm.matches_iff address, fun _ listed _ listed' => arm_unique listed listed', ?_⟩
  intro high
  have refused := isPrecompile_of_high gas high
  rw [refused, IsPrecompileResult.answer.injEq] at answers
  exact ⟨refused, Option.isNone_iff_eq_none.mp (Option.isSome_eq_false_iff.mp answers.1.symm)⟩

end FrontierPrecompiles
end Solochain
