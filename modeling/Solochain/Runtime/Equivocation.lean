import Solochain.Library.Codec
import Solochain.Runtime.Types

/-!
Equivocation reports: the proof that `generate_key_ownership_proof` hands out and
what `submit_report_equivocation_unsigned_extrinsic` reads of it.

Both functions are written once for each engine. They encode at the proof type of
`Historical` and decode at the one the pallet of the engine is configured with.
-/
namespace Solochain

abbrev KeyTypeId := FixedBytes 4

def Engine.keyType : Engine → KeyTypeId
  | .babe => ⟨[0x62, 0x61, 0x62, 0x65], rfl⟩
  | .grandpa => ⟨[0x67, 0x72, 0x61, 0x6e], rfl⟩

structure OpaqueKeyOwnershipProof where
  bytes : Bytes
  deriving DecidableEq

/-- `KeyOwnerProof` in the configuration of the pallet; `sp_core::Void` has no
values. -/
def KeyOwnerProof (Proof : Type) : Engine → Type
  | .babe => Proof
  | .grandpa => Empty

def KeyOwnerProof.historical {Proof : Type} : (e : Engine) → KeyOwnerProof Proof e → Proof
  | .babe, p => p
  | .grandpa, p => p.elim

/-- What the API calls in other crates. -/
structure Reports (History Proof : Type) (EquivocationProof : Engine → Type) where
  prove : History → KeyTypeId × PublicKey → Option Proof
  codec : Codec Proof
  submitUnsigned : (e : Engine) → EquivocationProof e → KeyOwnerProof Proof e → Option Unit

namespace Reports
variable {History Proof : Type} {EquivocationProof : Engine → Type}
variable (R : Reports History Proof EquivocationProof)

def keyOwnerCodec : (e : Engine) → Codec (KeyOwnerProof Proof e)
  | .babe => R.codec
  | .grandpa => .void

def proveEncoded (keyType : KeyTypeId) (h : History) (authority : PublicKey) :
    Option OpaqueKeyOwnershipProof :=
  ((R.prove h (keyType, authority)).map R.codec.encode).map .mk

def decodeKeyOwnerProof (e : Engine) (p : OpaqueKeyOwnershipProof) :
    Option (KeyOwnerProof Proof e) :=
  (R.keyOwnerCodec e).decode p.bytes

def submitDecoded (e : Engine) (equivocation : EquivocationProof e)
    (p : OpaqueKeyOwnershipProof) : Option Unit := do
  let keyOwnerProof ← R.decodeKeyOwnerProof e p
  R.submitUnsigned e equivocation keyOwnerProof

/-! The functions of `BabeApi` and of `GrandpaApi`. -/

def babeGenerateKeyOwnershipProof : History → PublicKey → Option OpaqueKeyOwnershipProof :=
  R.proveEncoded Engine.babe.keyType

def babeSubmitReportEquivocation :
    EquivocationProof .babe → OpaqueKeyOwnershipProof → Option Unit :=
  R.submitDecoded .babe

def grandpaGenerateKeyOwnershipProof : History → PublicKey → Option OpaqueKeyOwnershipProof :=
  R.proveEncoded Engine.grandpa.keyType

def grandpaSubmitReportEquivocation :
    EquivocationProof .grandpa → OpaqueKeyOwnershipProof → Option Unit :=
  R.submitDecoded .grandpa

def generateKeyOwnershipProof : Engine → History → PublicKey → Option OpaqueKeyOwnershipProof
  | .babe => R.babeGenerateKeyOwnershipProof
  | .grandpa => R.grandpaGenerateKeyOwnershipProof

def submitReportEquivocation :
    (e : Engine) → EquivocationProof e → OpaqueKeyOwnershipProof → Option Unit
  | .babe => R.babeSubmitReportEquivocation
  | .grandpa => R.grandpaSubmitReportEquivocation

/-- Whatever proof is handed out reaches the pallet as `Historical` made it. -/
def ReportReaches (e : Engine) (h : History) (authority : PublicKey) : Prop :=
  ∀ p, R.generateKeyOwnershipProof e h authority = some p →
    ∃ keyOwnerProof, R.decodeKeyOwnerProof e p = some keyOwnerProof ∧
      R.prove h (e.keyType, authority) = some (keyOwnerProof.historical e) ∧
      ∀ equivocation, R.submitReportEquivocation e equivocation p =
        R.submitUnsigned e equivocation keyOwnerProof

theorem generateKeyOwnershipProof_eq (e : Engine) :
    R.generateKeyOwnershipProof e = R.proveEncoded e.keyType := by
  cases e <;> rfl

theorem submitReportEquivocation_eq (e : Engine) :
    R.submitReportEquivocation e = R.submitDecoded e := by
  cases e <;> rfl

theorem generateKeyOwnershipProof_eq_some {e : Engine} {h : History} {authority : PublicKey}
    {p : OpaqueKeyOwnershipProof} (generated : R.generateKeyOwnershipProof e h authority = some p) :
    ∃ proof, R.prove h (e.keyType, authority) = some proof ∧ p = ⟨R.codec.encode proof⟩ := by
  rw [generateKeyOwnershipProof_eq] at generated
  obtain ⟨bytes, encoded, rfl⟩ := Option.map_eq_some_iff.mp generated
  obtain ⟨proof, proved, rfl⟩ := Option.map_eq_some_iff.mp encoded
  exact ⟨proof, proved, rfl⟩

theorem submitReportEquivocation_of_decoded {e : Engine} {p : OpaqueKeyOwnershipProof}
    {keyOwnerProof : KeyOwnerProof Proof e}
    (decoded : R.decodeKeyOwnerProof e p = some keyOwnerProof)
    (equivocation : EquivocationProof e) :
    R.submitReportEquivocation e equivocation p =
      R.submitUnsigned e equivocation keyOwnerProof := by
  rw [submitReportEquivocation_eq, submitDecoded, decoded, Option.bind_eq_bind, Option.bind_some]

theorem reportReaches_babe (h : History) (authority : PublicKey) :
    R.ReportReaches .babe h authority := by
  intro p generated
  obtain ⟨proof, proved, rfl⟩ := R.generateKeyOwnershipProof_eq_some generated
  have decoded : R.decodeKeyOwnerProof .babe ⟨R.codec.encode proof⟩ = some proof :=
    R.codec.decode_encode proof
  exact ⟨proof, decoded, proved, R.submitReportEquivocation_of_decoded decoded⟩

theorem submitReportEquivocation_grandpa (equivocation : EquivocationProof .grandpa)
    (p : OpaqueKeyOwnershipProof) : R.submitReportEquivocation .grandpa equivocation p = none :=
  rfl

/-- Reports work for BABE. For GRANDPA they work only where there is nothing to
hand out. -/
theorem reportReaches_iff (e : Engine) (h : History) (authority : PublicKey) :
    R.ReportReaches e h authority ↔
      e = .babe ∨ R.prove h (e.keyType, authority) = none := by
  constructor
  · intro reaches
    cases e with
    | babe => exact Or.inl rfl
    | grandpa =>
        right
        cases proved : R.prove h (Engine.grandpa.keyType, authority) with
        | none => rfl
        | some proof =>
            have generated : R.generateKeyOwnershipProof .grandpa h authority =
                some ⟨R.codec.encode proof⟩ := by
              rw [generateKeyOwnershipProof_eq, proveEncoded, proved, Option.map_some,
                Option.map_some]
            obtain ⟨keyOwnerProof, _⟩ := reaches _ generated
            exact keyOwnerProof.elim
  · rintro (rfl | unproved)
    · exact R.reportReaches_babe h authority
    · intro p generated
      obtain ⟨proof, proved, _⟩ := R.generateKeyOwnershipProof_eq_some generated
      rw [unproved] at proved
      cases proved

end Reports

/-- The proofs of a chain whose session trie is its root: session, number of trie
nodes, number of validators. -/
abbrev RootProof := FixedBytes 4 × FixedBytes 1 × FixedBytes 4

def sampleReports : Reports Unit RootProof fun _ => Nat where
  prove _ _ := some (.ofNat 4 0x05000000, .ofNat 1 0, .ofNat 4 0x03000000)
  codec := .pair (.fixed 4) (.pair (.fixed 1) (.fixed 4))
  submitUnsigned _ _ _ := some ()

theorem grandpa_report_refused :
    ¬ sampleReports.ReportReaches .grandpa ()
      (.ofNat 32 0x88dc3417d5058ec4b4503e0c12ea1a0a89be200fe98922423d4334014fa6b0ee) := by
  intro reaches
  obtain ⟨keyOwnerProof, _⟩ := reaches _ rfl
  exact keyOwnerProof.elim

end Solochain
