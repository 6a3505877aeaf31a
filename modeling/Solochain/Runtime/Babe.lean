import Solochain.Library.Codec
import Solochain.Runtime.Types

/-!
What a block tells the runtime of its slot and its author.

The pre-runtime digest carries both. Its encoding and the search for the author
index are code of other crates; the look-up of the author's key is the runtime's.
-/
namespace Solochain

abbrev ConsensusEngineId := FixedBytes 4

def babeEngineId : ConsensusEngineId := ⟨[0x42, 0x41, 0x42, 0x45], rfl⟩

inductive PreDigest
  | primary (authorityIndex : UInt32) (slot : UInt64) (vrfSignature : FixedBytes 96)
  | secondaryPlain (authorityIndex : UInt32) (slot : UInt64)
  | secondaryVRF (authorityIndex : UInt32) (slot : UInt64) (vrfSignature : FixedBytes 96)
  deriving DecidableEq

namespace PreDigest

def authorityIndex : PreDigest → UInt32
  | primary i _ _ | secondaryPlain i _ | secondaryVRF i _ _ => i

def slot : PreDigest → UInt64
  | primary _ s _ | secondaryPlain _ s | secondaryVRF _ s _ => s

end PreDigest

inductive DigestItem
  | preRuntime (engine : ConsensusEngineId) (data : Bytes)
  | consensus (engine : ConsensusEngineId) (data : Bytes)
  | seal (engine : ConsensusEngineId) (data : Bytes)
  | other (data : Bytes)
  deriving DecidableEq

abbrev Digest := List DigestItem

def DigestItem.asPreRuntime : DigestItem → Option (ConsensusEngineId × Bytes)
  | preRuntime engine data => some (engine, data)
  | _ => none

def Digest.preRuntimes (logs : Digest) : List (ConsensusEngineId × Bytes) :=
  logs.filterMap DigestItem.asPreRuntime

structure BabeCrate where
  preDigest : Codec PreDigest
  findAuthor : List (ConsensusEngineId × Bytes) → Option UInt32
  findAuthor_first : ∀ d rest,
    findAuthor ((babeEngineId, preDigest.encode d) :: rest) = some d.authorityIndex

namespace BabeCrate
variable (B : BabeCrate)

def digestItem (d : PreDigest) : DigestItem := .preRuntime babeEngineId (B.preDigest.encode d)

def preDigestOf (logs : Digest) : Option PreDigest :=
  logs.preRuntimes.findSome? fun (engine, data) =>
    if engine = babeEngineId then B.preDigest.decode data else none

/-- The current slot once the block is initialized; without a pre-digest it stays. -/
def onInitialize (currentSlot : UInt64) (logs : Digest) : UInt64 :=
  match B.preDigestOf logs with
  | some d => d.slot
  | none => currentSlot

@[simp] theorem preDigestOf_digestItem (d : PreDigest) :
    B.preDigestOf [B.digestItem d] = some d := by
  simp [preDigestOf, Digest.preRuntimes, DigestItem.asPreRuntime, digestItem]

@[simp] theorem onInitialize_digestItem (currentSlot : UInt64) (d : PreDigest) :
    B.onInitialize currentSlot [B.digestItem d] = d.slot := by
  rw [onInitialize, preDigestOf_digestItem]

end BabeCrate

namespace Babe

/-- Twice `MinimumPeriod`. -/
def slotDuration : UInt64 := Time.minimumPeriod * 2

def slotOf (timestamp : UInt64) : UInt64 := timestamp / slotDuration

theorem slotDuration_eq : slotDuration = Time.slotDuration := by decide

theorem toNat_slotOf (timestamp : UInt64) : (slotOf timestamp).toNat = timestamp.toNat / 6000 :=
  UInt64.toNat_div timestamp slotDuration

theorem toNat_add_slotDuration {timestamp : UInt64} (h : timestamp.toNat + 6000 < 2 ^ 64) :
    (timestamp + slotDuration).toNat = timestamp.toNat + 6000 :=
  (UInt64.toNat_add timestamp slotDuration).trans (Nat.mod_eq_of_lt h)

def onTimestampSet (currentSlot moment : UInt64) : Except Panic Unit :=
  if currentSlot = slotOf moment then .ok () else .error .slotMismatch

theorem onTimestampSet_eq_ok_iff (currentSlot moment : UInt64) :
    onTimestampSet currentSlot moment = .ok () ↔ currentSlot = slotOf moment := by
  simp only [onTimestampSet]
  split <;> simp [*]

end Babe

/-- `pallet_timestamp::Pallet::set`, where the last timestamp is zero as long as none
is set. -/
def setTimestamp (currentSlot now moment : UInt64) : Except Panic UInt64 := do
  if now ≠ 0 ∧ moment < now + Time.minimumPeriod then .error .timestampTooEarly
  Babe.onTimestampSet currentSlot moment
  .ok moment

theorem not_early_of_le {now moment : UInt64}
    (period : now.toNat + Time.minimumPeriod.toNat ≤ moment.toNat) :
    ¬ (now ≠ 0 ∧ moment < now + Time.minimumPeriod) := by
  rintro ⟨_, early⟩
  rw [UInt64.lt_iff_toNat_lt, UInt64.toNat_add] at early
  have bound := moment.toNat_lt
  rw [Nat.mod_eq_of_lt (by omega)] at early
  omega

theorem setTimestamp_eq_ok {currentSlot now moment set : UInt64}
    (h : setTimestamp currentSlot now moment = .ok set) :
    set = moment ∧ currentSlot = Babe.slotOf moment := by
  rw [setTimestamp] at h
  split at h
  · cases h
  · obtain ⟨_, hook, rest⟩ := bind_eq_ok h
    cases rest
    exact ⟨rfl, (Babe.onTimestampSet_eq_ok_iff _ _).mp hook⟩

theorem not_early_of_setTimestamp {currentSlot now moment set : UInt64}
    (h : setTimestamp currentSlot now moment = .ok set) :
    ¬ (now ≠ 0 ∧ moment < now + Time.minimumPeriod) := by
  intro early
  rw [setTimestamp, if_pos early] at h
  cases h

def findAuthorTruncated (B : BabeCrate) (authorities : List (PublicKey × UInt64))
    (digests : List (ConsensusEngineId × Bytes)) : Except Panic (Option H160) :=
  match B.findAuthor digests with
  | some authorIndex =>
      match authorities[authorIndex.toNat]? with
      | some (key, _) => .ok (some (key.slice 4 20 (by decide)))
      | none => .error .indexOutOfBounds
  | none => .ok none

namespace PreDigest

def scale : Codec PreDigest where
  encode
    | primary i s vrf => 1 :: (Codec.u32.pair (Codec.u64.pair (.fixed 96))).encode (i, s, vrf)
    | secondaryPlain i s => 2 :: (Codec.u32.pair .u64).encode (i, s)
    | secondaryVRF i s vrf => 3 :: (Codec.u32.pair (Codec.u64.pair (.fixed 96))).encode (i, s, vrf)
  read
    | 1 :: rest =>
        ((Codec.u32.pair (Codec.u64.pair (.fixed 96))).read rest).map
          fun (fields, rest) => (primary fields.1 fields.2.1 fields.2.2, rest)
    | 2 :: rest =>
        ((Codec.u32.pair .u64).read rest).map
          fun (fields, rest) => (secondaryPlain fields.1 fields.2, rest)
    | 3 :: rest =>
        ((Codec.u32.pair (Codec.u64.pair (.fixed 96))).read rest).map
          fun (fields, rest) => (secondaryVRF fields.1 fields.2.1 fields.2.2, rest)
    | _ => none
  read_encode d rest := by
    cases d <;> simp only [List.cons_append, Codec.read_encode, Option.map_some]

end PreDigest

/-- `pallet_babe::Pallet::find_author`, which stops at the first BABE item. -/
def scaleFindAuthor : List (ConsensusEngineId × Bytes) → Option UInt32
  | [] => none
  | (engine, data) :: rest =>
      if engine = babeEngineId then (PreDigest.scale.decode data).map PreDigest.authorityIndex
      else scaleFindAuthor rest

def scaleBabe : BabeCrate where
  preDigest := PreDigest.scale
  findAuthor := scaleFindAuthor
  findAuthor_first d rest := by
    rw [scaleFindAuthor, if_pos rfl, Codec.decode_encode, Option.map_some]

end Solochain
