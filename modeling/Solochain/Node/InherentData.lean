import Solochain.Runtime.Babe
import Mathlib.Data.List.Nodup

/-!
The inherent data of a block, and what each part of the node puts into it.

Values stand before their encoding. The node builds inherent data by hand in four
places: for the import check, for the pending block of the RPC, for authoring
through BABE and for manual sealing.
-/
namespace Solochain

inductive InherentIdentifier
  | babeSlot
  | timestamp
  | dynamicFee
  | storageProof
  deriving DecidableEq

inductive InherentValue
  | slot (slot : UInt64)
  | timestamp (millis : UInt64)
  | targetGasPrice (price : Nat)
  | storageProof (proof : Bytes)
  deriving DecidableEq

inductive InherentError
  | inherentDataExists (identifier : InherentIdentifier)
  | missingInherent
  | storageProofUnavailable
  deriving DecidableEq

abbrev InherentData := List (InherentIdentifier × InherentValue)

abbrev InherentDataProvider := InherentData → Except InherentError InherentData

namespace InherentData

/-- `InherentData::put_data` never replaces a value. -/
def putData (identifier : InherentIdentifier) (value : InherentValue) : InherentDataProvider :=
  fun data =>
    if identifier ∈ data.map Prod.fst then .error (.inherentDataExists identifier)
    else .ok (data ++ [(identifier, value)])

def create (providers : List InherentDataProvider) : Except InherentError InherentData :=
  providers.foldlM (fun data provide => provide data) []

def slot (data : InherentData) : Option UInt64 :=
  match data.lookup .babeSlot with
  | some (.slot slot) => some slot
  | _ => none

def timestamp (data : InherentData) : Option UInt64 :=
  match data.lookup .timestamp with
  | some (.timestamp millis) => some millis
  | _ => none

def targetGasPrice (data : InherentData) : Option Nat :=
  match data.lookup .dynamicFee with
  | some (.targetGasPrice price) => some price
  | _ => none

theorem foldlM_putData (entries data : InherentData)
    (distinct : ((data ++ entries).map Prod.fst).Nodup) :
    (entries.map fun entry => putData entry.1 entry.2).foldlM (fun data provide => provide data)
      data = .ok (data ++ entries) := by
  induction entries generalizing data with
  | nil =>
      rw [List.append_nil]
      rfl
  | cons entry entries ih =>
      have absent : entry.1 ∉ data.map Prod.fst := by
        intro present
        rw [List.map_append, List.nodup_append] at distinct
        exact distinct.2.2 _ present _ (List.mem_map_of_mem List.mem_cons_self) rfl
      have stored : putData entry.1 entry.2 data = .ok (data ++ [entry]) := if_neg absent
      rw [List.map_cons, List.foldlM_cons, stored]
      rw [List.append_cons data entry entries] at distinct ⊢
      exact ih (data ++ [entry]) distinct

/-- Providers with distinct identifiers leave all their values. -/
theorem create_putData (entries : InherentData) (distinct : (entries.map Prod.fst).Nodup) :
    create (entries.map fun entry => putData entry.1 entry.2) = .ok entries :=
  foldlM_putData entries [] distinct

end InherentData

namespace InherentDataProvider
open InherentData

def babeSlot (timestamp : UInt64) : InherentDataProvider :=
  putData .babeSlot (.slot (Babe.slotOf timestamp))

def timestamp (millis : UInt64) : InherentDataProvider := putData .timestamp (.timestamp millis)

def dynamicFee (targetGasPrice : UInt64) : InherentDataProvider :=
  putData .dynamicFee (.targetGasPrice targetGasPrice.toNat)

/-- The storage proof is put only for a parent that calls for one. -/
def storageProof : Option Bytes → InherentDataProvider
  | some proof => putData .storageProof (.storageProof proof)
  | none => .ok

end InherentDataProvider

namespace Node
open InherentDataProvider

/-- Of `build_babe_grandpa_import_queue`, at wall-clock time `now`. -/
def importInherents (now targetGasPrice : UInt64) : List InherentDataProvider :=
  [babeSlot now, timestamp now, dynamicFee targetGasPrice]

/-- `pending_create_inherent_data_providers`. -/
def pendingInherents (now targetGasPrice : UInt64) : List InherentDataProvider :=
  let nextSlot := now + Babe.slotDuration
  [babeSlot nextSlot, timestamp nextSlot, dynamicFee targetGasPrice]

/-- Of the BABE authoring task in `new_full`. -/
def authoringInherents (now : UInt64) (proof : Option Bytes) : List InherentDataProvider :=
  -- the dynamic fee stands in a comment only, under "TODO huh?"
  [babeSlot now, timestamp now, storageProof proof]

/-- Of `run_manual_seal_authorship`, after the mock clock has moved to `now`. -/
def manualSealInherents (now targetGasPrice : UInt64) : List InherentDataProvider :=
  [timestamp now, dynamicFee targetGasPrice]

theorem create_pendingInherents (now targetGasPrice : UInt64) :
    InherentData.create (pendingInherents now targetGasPrice) = .ok
      [(.babeSlot, .slot (Babe.slotOf (now + Babe.slotDuration))),
        (.timestamp, .timestamp (now + Babe.slotDuration)),
        (.dynamicFee, .targetGasPrice targetGasPrice.toNat)] :=
  InherentData.create_putData [(.babeSlot, _), (.timestamp, _), (.dynamicFee, _)] (by simp)

theorem create_importInherents (now targetGasPrice : UInt64) :
    InherentData.create (importInherents now targetGasPrice) = .ok
      [(.babeSlot, .slot (Babe.slotOf now)), (.timestamp, .timestamp now),
        (.dynamicFee, .targetGasPrice targetGasPrice.toNat)] :=
  InherentData.create_putData [(.babeSlot, _), (.timestamp, _), (.dynamicFee, _)] (by simp)

theorem create_authoringInherents (now : UInt64) (proof : Option Bytes) :
    InherentData.create (authoringInherents now proof) = .ok
      ([(.babeSlot, .slot (Babe.slotOf now)), (.timestamp, .timestamp now)] ++
        (proof.map fun proof => (.storageProof, .storageProof proof)).toList) := by
  cases proof with
  | none => rfl
  | some proof => rfl

theorem create_manualSealInherents (now targetGasPrice : UInt64) :
    InherentData.create (manualSealInherents now targetGasPrice) = .ok
      [(.timestamp, .timestamp now), (.dynamicFee, .targetGasPrice targetGasPrice.toNat)] :=
  InherentData.create_putData [(.timestamp, _), (.dynamicFee, _)] (by simp)

end Node
end Solochain
