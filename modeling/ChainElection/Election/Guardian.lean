import ChainElection.Election.Config

/-!
Guardians: who decrypt the tally together, and what each has posted so far.
-/

namespace ChainElection

/-- What a guardian found when verifying the others' posts. A failure names the guardians concerned. -/
inductive GuardianStatus where
  | keyVerificationFailed (guardians : List Account)
  | sharesVerificationFailed (guardians : List Account)
  | verificationSuccessful
  deriving DecidableEq, Inhabited

namespace GuardianStatus

/-- The status's outline. -/
def outline : GuardianStatus → Outline
  | .keyVerificationFailed gs =>
    .group "KeyVerificationFailed" [.list (gs.map Account.outline)]
  | .sharesVerificationFailed gs =>
    .group "SharesVerificationFailed" [.list (gs.map Account.outline)]
  | .verificationSuccessful => .atom "VerificationSuccessful"

/-- The status's binary form: a byte for the alternative, then the guardians it names. -/
def codec : Binary.Codec GuardianStatus :=
  let names := Binary.Codec.list Account.codec
  { Fits := fun
      | .keyVerificationFailed gs => names.Fits gs
      | .sharesVerificationFailed gs => names.Fits gs
      | .verificationSuccessful => True
    encode := fun
      | .keyVerificationFailed gs => 0 :: names.encode gs
      | .sharesVerificationFailed gs => 1 :: names.encode gs
      | .verificationSuccessful => [2]
    decode := fun
      | [] => .error .tooShort
      | b :: r =>
        if b = 0 then (names.decode r).map fun p => (.keyVerificationFailed p.1, p.2)
        else if b = 1 then (names.decode r).map fun p => (.sharesVerificationFailed p.1, p.2)
        else if b = 2 then .ok (.verificationSuccessful, r)
        else .error (.badVariant b) }

end GuardianStatus

/-- What a guardian has posted. -/
structure GuardianState where
  index : UInt32
  verificationKey : Option (List UInt8)
  encryptionKey : Option (List UInt8)
  share : Option (List UInt8)
  shareProof : Option (List UInt8)
  status : Option GuardianStatus
  deriving DecidableEq, Inhabited

namespace GuardianState

/-- The state's outline. -/
def outline (g : GuardianState) : Outline :=
  .record "GuardianState"
    [("index", .ofNat g.index.toNat),
      ("verification_key", .ofOption .ofBytes g.verificationKey),
      ("encryption_public_key", .ofOption .ofBytes g.encryptionKey),
      ("decryption_share", .ofOption .ofBytes g.share),
      ("decryption_share_proof", .ofOption .ofBytes g.shareProof),
      ("status", .ofOption GuardianStatus.outline g.status)]

/-- The state's binary form. -/
def codec : Binary.Codec GuardianState :=
  open Binary.Codec in
  (word32.pair <| (option bytes).pair <| (option bytes).pair <| (option bytes).pair <|
    (option bytes).pair (option GuardianStatus.codec)).rename
    (fun (a, b, c, d, e, f) => ⟨a, b, c, d, e, f⟩)
    fun g => (g.index, g.verificationKey, g.encryptionKey, g.share, g.shareProof, g.status)

end GuardianState

/-- All guardians with their states. -/
abbrev Guardians : Type := List (Account × GuardianState)

namespace Guardians

/-- The guardians' outline. -/
def outline (gs : Guardians) : Outline :=
  .list (gs.map fun g => .group "" [g.1.outline, g.2.outline])

/-- The guardians' binary form. -/
def codec : Binary.Codec Guardians := .list (Account.codec.pair GuardianState.codec)

end Guardians

end ChainElection
