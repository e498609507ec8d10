import Basil.Lib.KeepMax
import Basil.SealedBox
import Basil.SealedBundle

/-!
# Credential deposits (`core/seal/deposit.rs`)

A deposit is a cleartext record outside the payload's seal: a credential sealed to the ingest key
of the bundle, signed by a contributor. After an unlock the records that the sealed allow-list
authorizes overlay the payload.
-/

namespace Basil.Bundle

structure GcpSaIdentity where
  projectId : Option String
  clientEmail : Option String
  privateKeyId : Option String

structure DepositEnv extends UnlockEnv where
  crypto : SealCrypto
  ed25519Public : FixedBytes 32 → FixedBytes 32
  ed25519Sign : FixedBytes 32 → Bytes → FixedBytes 64
  ed25519Verify : FixedBytes 32 → Bytes → FixedBytes 64 → Bool
  b64Encode : Bytes → String
  b64Decode : String → Option Bytes
  sha256 : Bytes → Bytes
  gcpIdentity : String → Option GcpSaIdentity

def depositAadLabel : Bytes := "basil-bundle-deposit-v1".toUTF8.data.toList

def maxDeposits : Nat := 1024

inductive DepositStatus where
  | effective
  | superseded
  | missingIngestIdentity
  | unauthorizedContributor
  | unauthorizedBackend
  | staleEpoch
  | badSignature
  | decryptFailed
  | decodeFailed
  | logTooLarge
  deriving DecidableEq

inductive DepositAction where
  | new
  | replace
  | unknown
  deriving DecidableEq

structure DepositReview where
  index : Nat
  backendId : String
  contributorKeyId : String
  epoch : Nat
  seq : Nat
  status : DepositStatus
  action : DepositAction
  fingerprint : Option String
  deriving DecidableEq

structure Candidate where
  index : Nat
  backendId : String
  contributorKeyId : String
  seq : Nat
  cred : BackendCred
  deriving DecidableEq

variable (env : DepositEnv)

def publicKeyFromToken (token : String) : Except SealError (FixedBytes 32) := do
  let bytes ← orErr (env.b64Decode token) (.format "deposit public key decode")
  orErr (FixedBytes.ofBytes? 32 bytes) (.format "deposit public key must be 32 bytes")

def depositAad (header : Header) (backendId : String) (epoch seq : Nat) (contributorKeyId : String) :
    Bytes :=
  depositAadLabel ++ env.json.contextToVec ⟨header.bundleId, epoch, backendId, seq, contributorKeyId⟩

def createSignedRecord (header : Header) (backendId contributorKeyId : String) (seq : Nat)
    (recipientPublic signingSeed : FixedBytes 32) (cred : BackendCred) (ephemeral : FixedBytes 32)
    (nonce : FixedBytes 12) : Except SealError DepositRecord := do
  let aad := depositAad env header backendId header.epoch seq contributorKeyId
  let envelope ← (X25519Seal.sealWithParts env.crypto recipientPublic (env.json.credToVec cred) aad
    ephemeral nonce).mapError fun _ => .crypto "deposit seal"
  let record : DepositRecord := ⟨backendId, header.epoch, seq, contributorKeyId,
    ⟨envelope.encapsulatedKey.bytes, envelope.nonce.bytes, envelope.ciphertext⟩, []⟩
  return { record with
    signature := (env.ed25519Sign signingSeed (depositSigningBytes env.json record)).bytes }

def credentialFingerprint (cred : BackendCred) : String :=
  let digest := "sha256:" ++ env.b64Encode (env.sha256 (env.json.credToVec cred))
  match cred with
  | .gcpKms _ _ _ (some json) =>
      match env.gcpIdentity json with
      | some identity => "gcp-sa:" ++ identity.projectId.getD "-" ++ ":" ++
          identity.clientEmail.getD "-" ++ ":" ++ identity.privateKeyId.getD "-"
      | none => digest
  | _ => digest

/-! ### Review -/

def review (baseline : CredBundle) (record : DepositRecord) (index : Nat) (status : DepositStatus)
    (fingerprint : Option String) : DepositReview where
  index := index
  backendId := record.backendId
  contributorKeyId := record.contributorKeyId
  epoch := record.epoch
  seq := record.seq
  status := status
  action :=
    if fingerprint.isNone then .unknown
    else if (baseline.backends.get? record.backendId).isSome then .replace else .new
  fingerprint := fingerprint

/-- The credential of a record that is authorized in the epoch of `header`. -/
def reviewCred (header : Header) (material : DepositMaterial) (ingest : FixedBytes 32)
    (record : DepositRecord) : Except DepositStatus BackendCred := do
  ensure (record.epoch = header.epoch) .staleEpoch
  let contributor ← orErr (material.contributors.get? record.contributorKeyId)
    .unauthorizedContributor
  ensure (record.backendId ∈ contributor.allowedBackendIds) .unauthorizedBackend
  let key ← (publicKeyFromToken env contributor.publicKey).mapError fun _ => .badSignature
  let signature ← orErr (FixedBytes.ofBytes? 64 record.signature) .badSignature
  ensure (env.ed25519Verify key (depositSigningBytes env.json record) signature = true) .badSignature
  let envelope ← (X25519Seal.envelopeFromParts record.sealedCred.encapsulatedKey
    record.sealedCred.nonce record.sealedCred.ciphertext).mapError fun _ => .decryptFailed
  let plaintext ← (X25519Seal.openEnvelope env.crypto ingest envelope
    (depositAad env header record.backendId record.epoch record.seq record.contributorKeyId)).mapError
      fun _ => .decryptFailed
  (env.json.credFromSlice plaintext).mapError fun _ => .decodeFailed

def reviewOne (header : Header) (baseline : CredBundle) (ingest : FixedBytes 32)
    (record : DepositRecord) (index : Nat) : Except DepositStatus (Candidate × DepositReview) := do
  let cred ← reviewCred env header baseline.deposit ingest record
  return (⟨index, record.backendId, record.contributorKeyId, record.seq, cred⟩,
    review baseline record index .superseded (some (credentialFingerprint env cred)))

/-- The loop of `review_authorized`. -/
def reviewLog (header : Header) (baseline : CredBundle) (ingest : FixedBytes 32) :
    Nat → List DepositRecord → List DepositReview × List Candidate
  | _, [] => ([], [])
  | index, record :: records =>
      let (reviews, candidates) := reviewLog header baseline ingest (index + 1) records
      if maxDeposits ≤ index then
        (review baseline record index .logTooLarge none :: reviews, candidates)
      else
        match reviewOne env header baseline ingest record index with
        | .ok (candidate, depositReview) => (depositReview :: reviews, candidate :: candidates)
        | .error status => (review baseline record index status none :: reviews, candidates)

def reviewAuthorized (parsed : ParsedBundle) (baseline : CredBundle) :
    List DepositReview × List Candidate :=
  match baseline.deposit.ingestPrivateKey with
  | none => (parsed.body.deposits.zipIdx.map fun (record, index) =>
      review baseline record index .missingIngestIdentity none, [])
  | some ingest => reviewLog env parsed.body.header baseline ingest 0 parsed.body.deposits

/-! ### Selection -/

def Candidate.pair (c : Candidate) : String ×ₗ String := toLex (c.contributorKeyId, c.backendId)

/-- The last of the highest sequence for a contributor and backend, in the order of the pairs. -/
def byPair (candidates : List Candidate) : List Candidate :=
  (keepMax Candidate.pair Candidate.seq candidates).entries.map Prod.snd

def byBackend (candidates : List Candidate) : OrdMap String Candidate :=
  keepMax Candidate.backendId Candidate.seq (byPair candidates)

def selectEffective (candidates : List Candidate) : List Candidate :=
  (byBackend candidates).entries.map Prod.snd

/-! ### Applying and promoting -/

def markEffective (reviews : List DepositReview) (candidate : Candidate) : List DepositReview :=
  reviews.modify candidate.index fun r => { r with status := .effective }

def applyAuthorizedDeposits (parsed : ParsedBundle) (creds : CredBundle) :
    CredBundle × List DepositReview :=
  let (reviews, candidates) := reviewAuthorized env parsed creds
  (selectEffective candidates).foldl
    (fun state candidate => (state.1.set candidate.backendId candidate.cred,
      markEffective state.2 candidate)) (creds, reviews)

def reviewDeposits (parsed : ParsedBundle) (creds : CredBundle) : List DepositReview :=
  let (reviews, candidates) := reviewAuthorized env parsed creds
  (selectEffective candidates).foldl markEffective reviews

def selected (backendFilter contributorFilter : List String) (candidate : Candidate) : Bool :=
  (backendFilter.isEmpty || backendFilter.contains candidate.backendId) &&
    (contributorFilter.isEmpty || contributorFilter.contains candidate.contributorKeyId)

def promotedPayload (creds : CredBundle) (promoted : List Candidate) : CredBundle :=
  promoted.foldl (fun creds candidate => creds.set candidate.backendId candidate.cred) creds

def keptDeposits (deposits : List DepositRecord) (promoted : List Candidate) : List DepositRecord :=
  (deposits.zipIdx.filter fun (_, index) =>
    !(promoted.any fun candidate => candidate.index == index)).map Prod.fst

def promoteDeposits (draw : ResealDraw) (parsed : ParsedBundle) (methods : MethodRegistry)
    (backendFilter contributorFilter : List String) :
    Proc Ledger SealError (Bytes × List DepositReview) := do
  let creds ← Proc.check (openBundle env.toUnlockEnv parsed methods)
  let (reviews, candidates) := reviewAuthorized env parsed creds
  let effective := selectEffective candidates
  let promoted := effective.filter (selected backendFilter contributorFilter)
  let file ← resealPayloadBumpEpochWithDeposits env.toUnlockEnv draw parsed methods
    (promotedPayload creds promoted) (keptDeposits parsed.body.deposits promoted)
  return (file, effective.foldl markEffective reviews)

def unlockCreds (parsed : ParsedBundle) (methods : MethodRegistry) : Except SealError CredBundle := do
  let creds ← openBundle env.toUnlockEnv parsed methods
  return (applyAuthorizedDeposits env parsed creds).1

end Basil.Bundle
