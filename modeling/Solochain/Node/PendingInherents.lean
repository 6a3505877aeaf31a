import Solochain.Node.InherentData

/-!
The inherents and the digest of the pending block that the Ethereum RPC builds.

The timestamp inherent, the slot inherent, the digest and the author look-up of
the runtime come from four places; here they meet over one wall-clock time.
-/
namespace Solochain

def createDigest (B : BabeCrate) (data : InherentData) : Except InherentError Digest :=
  match data.slot with
  | some slot => .ok [B.digestItem (.secondaryPlain 0 slot)]
  | none => .error .missingInherent

/-- The runtime takes the pending block over a parent with the timestamp `parentNow`. -/
structure PendingAccepted (B : BabeCrate) (now parentNow : UInt64)
    (authorities : List (PublicKey × UInt64)) (data : InherentData) (digest : Digest) : Prop where
  timestamp : data.timestamp = some (now + Babe.slotDuration)
  digestSlot : (B.preDigestOf digest).map PreDigest.slot =
    some (Babe.slotOf (now + Babe.slotDuration))
  laterSlot : Babe.slotOf now < Babe.slotOf (now + Babe.slotDuration)
  minimumPeriod : parentNow.toNat + Time.minimumPeriod.toNat ≤ (now + Babe.slotDuration).toNat
  setTimestamp : ∀ currentSlot,
    setTimestamp (B.onInitialize currentSlot digest) parentNow (now + Babe.slotDuration) =
      .ok (now + Babe.slotDuration)
  author : ∃ author, findAuthorTruncated B authorities digest.preRuntimes = .ok (some author)

theorem slotOf_lt_slotOf_add {now : UInt64} (h : now.toNat + 6000 < 2 ^ 64) :
    Babe.slotOf now < Babe.slotOf (now + Babe.slotDuration) := by
  rw [UInt64.lt_iff_toNat_lt, Babe.toNat_slotOf, Babe.toNat_slotOf,
    Babe.toNat_add_slotDuration h]
  omega

theorem minimumPeriod_le_add {now parentNow : UInt64} (h : now.toNat + 6000 < 2 ^ 64)
    (parent : parentNow ≤ now) :
    parentNow.toNat + Time.minimumPeriod.toNat ≤ (now + Babe.slotDuration).toNat := by
  have period : Time.minimumPeriod.toNat = 3000 := rfl
  have before := UInt64.le_iff_toNat_le.mp parent
  rw [Babe.toNat_add_slotDuration h, period]
  omega

theorem setTimestamp_of_slotOf {now moment : UInt64}
    (period : now.toNat + Time.minimumPeriod.toNat ≤ moment.toNat) :
    setTimestamp (Babe.slotOf moment) now moment = .ok moment := by
  rw [setTimestamp, if_neg (not_early_of_le period), (Babe.onTimestampSet_eq_ok_iff _ _).mpr rfl]
  rfl

/-- The digest names the authority zero, which every authority set has. -/
theorem findAuthorTruncated_digestItem (B : BabeCrate) (key : PublicKey) (weight slot : UInt64)
    (rest : List (PublicKey × UInt64)) :
    findAuthorTruncated B ((key, weight) :: rest)
        (Digest.preRuntimes [B.digestItem (.secondaryPlain 0 slot)]) =
      .ok (some (key.slice 4 20 (by decide))) := by
  have found : B.findAuthor (Digest.preRuntimes [B.digestItem (.secondaryPlain 0 slot)]) =
      some 0 := B.findAuthor_first (.secondaryPlain 0 slot) []
  simp only [findAuthorTruncated, found]
  rfl

/-- For every clock value, parent and authority set the pending block is made without
an error, and the runtime accepts it. -/
theorem pendingInherents_accepted (B : BabeCrate) (now parentNow targetGasPrice : UInt64)
    (authorities : List (PublicKey × UInt64)) (parent : parentNow ≤ now)
    (clock : now.toNat + Babe.slotDuration.toNat < 2 ^ 64) (nonempty : authorities ≠ []) :
    ∃ data digest, InherentData.create (Node.pendingInherents now targetGasPrice) = .ok data ∧
      createDigest B data = .ok digest ∧
      PendingAccepted B now parentNow authorities data digest := by
  have period := minimumPeriod_le_add clock parent
  refine ⟨_, [B.digestItem (.secondaryPlain 0 (Babe.slotOf (now + Babe.slotDuration)))],
    Node.create_pendingInherents now targetGasPrice, rfl, ?_⟩
  refine
    { timestamp := rfl
      digestSlot := ?_
      laterSlot := slotOf_lt_slotOf_add clock
      minimumPeriod := period
      setTimestamp := ?_
      author := ?_ }
  · rw [B.preDigestOf_digestItem]
    rfl
  · intro currentSlot
    rw [B.onInitialize_digestItem]
    exact setTimestamp_of_slotOf period
  · cases authorities with
    | nil => exact absurd rfl nonempty
    | cons first rest => exact ⟨_, findAuthorTruncated_digestItem B first.1 first.2 _ rest⟩

theorem pendingInherents_accepted_sample :
    ∃ data digest, InherentData.create (Node.pendingInherents 1_700_000_003_000 1) = .ok data ∧
      createDigest scaleBabe data = .ok digest ∧
      PendingAccepted scaleBabe 1_700_000_003_000 1_700_000_000_000
        [(.ofNat 32 0xd43593c715fdd31c61141abd04a99fd6822c8558854ccde39a5684e7a56da27d, 1)]
        data digest :=
  pendingInherents_accepted scaleBabe _ _ _ _ (by decide) (by decide) (List.cons_ne_nil _ _)

end Solochain
