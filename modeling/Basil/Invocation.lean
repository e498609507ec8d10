import Basil.Aead
import Basil.ChallengeSource
import Basil.CiRuleSelection
import Basil.PolicyInspection

/-!
# Sealed invocations (`service/invocation.rs`)

The preflight of a sealed request runs its checks in a fixed order: the outer signature, the
provider proof, the envelope's authority, the response recipient, the freshness challenge, the
actor, the per-run quota, the decrypt permission. The effects of one request are logged next to
the shared state; other requests may change that state whenever this one waits.
-/

namespace Basil.Invocation

open Cose CiFederation Challenge RunQuota Evidence Proc

def invokeOp : String := "invoke"
def contentTypeSignRequest : String := "application/basil.sign-request"
def contentTypeSignResponse : String := "application/basil.sign-response"
def defaultExpiresAfterSecs : Nat := 60
def brokerKeyUseLabel : String := "broker_key_use"
def brokerResponseEncryptionUse : String := "response-encryption"

structure BrokerIdentity where
  id : String
  responseSigningKeyId : String

structure InvocationConfig extends ChallengeSource.InvocationRuntimeConfig where
  brokerIdentity : Option BrokerIdentity
  audiences : List String
  requestEncryptionKeyId : Option String
  maxTtlSecs : Nat
  clockSkewSecs : Nat

structure ServingGeneration (env : FederationEnv) extends Generation where
  federation : Option (ProviderCatalog env)
  access : ProviderAccess

structure SignInvocationRequest where
  keyId : String
  message : Bytes
  algorithm : Int

inductive InvocationStatusCode where
  | ok
  | denied
  | invalidRequest
  | internalError
  | challengeUnknown
  | perRunQuotaExceeded
  deriving DecidableEq

structure InvocationStatus where
  code : InvocationStatusCode
  reason : String
  message : Option String
  retryable : Bool
  deriving DecidableEq

namespace InvocationStatus

def ok : InvocationStatus := ⟨.ok, "OK", none, false⟩
def denied : InvocationStatus := ⟨.denied, "UNAUTHORIZED", some "not authorized", false⟩
def invalidRequest (reason : String) : InvocationStatus := ⟨.invalidRequest, reason, none, false⟩
def internalError : InvocationStatus := ⟨.internalError, "INTERNAL_ERROR", none, true⟩
def challengeUnknown : InvocationStatus := ⟨.challengeUnknown, "CHALLENGE_UNKNOWN", none, false⟩
def perRunQuotaExceeded : InvocationStatus :=
  ⟨.perRunQuotaExceeded, "PER_RUN_QUOTA_EXCEEDED", none, false⟩
def runQuotaUntracked : InvocationStatus := ⟨.internalError, "RUN_QUOTA_UNTRACKED", none, true⟩

end InvocationStatus

structure SignInvocationResponse where
  status : InvocationStatus
  policyGeneration : Nat
  signature : Option Bytes
  deriving DecidableEq

inductive SealedDenial where
  | challengeUnknown
  | perRunQuotaExceeded
  | runQuotaUnavailable
  | runQuotaUntracked
  deriving DecidableEq

def SealedDenial.status : SealedDenial → InvocationStatus
  | challengeUnknown => .challengeUnknown
  | perRunQuotaExceeded | runQuotaUnavailable => .perRunQuotaExceeded
  | runQuotaUntracked => .runQuotaUntracked

def SealedDenial.ofQuota : RunQuotaDenied → SealedDenial
  | .untracked => runQuotaUntracked
  | .exhausted => perRunQuotaExceeded
  | .quotaUnavailable => runQuotaUnavailable

inductive ResponseRecipient where
  | catalog (keyId : String)
  | ephemeral (keyId : String) (publicKey : FixedBytes 32)
  deriving DecidableEq

def ResponseRecipient.keyId : ResponseRecipient → String
  | catalog keyId => keyId
  | ephemeral keyId _ => keyId

/-! ### State, log and interference -/

structure Shared (σ : Type) where
  store : σ
  challengeTable : ChallengeTable
  runQuota : RunQuotaTable
  jwksCaches : JwksCaches

inductive SignSite where
  | operation
  | response
  deriving DecidableEq

inductive Event where
  | evidenceVerified (evidence : VerifiedProviderEvidence)
  | challengeConsumed (challenge : FixedBytes 32) (jkt : Jkt) (generation : Nat)
  | quotaCharged (generation : Nat) (key : RunQuotaKey) (receipt : RunQuotaReceipt)
  | backendSigned (site : SignSite) (keyId : String) (message signature : Bytes)
  | responseSealed (recipient : ResponseRecipient) (publicKey : FixedBytes 32)
  deriving DecidableEq

structure Run (σ : Type) where
  shared : Shared σ
  log : List Event

inductive Await where
  | evidence
  | freshness
  | quota
  | material
  | opening
  | operation
  | response
  deriving DecidableEq

inductive Reading where
  | validation
  | evidence
  | freshness
  | quota
  | response
  deriving DecidableEq

/-- What a request meets. `unsealCose` is any opening, `Manager.unsealCose` included; `others` is
what the other requests do to the shared state while this one waits. -/
structure World (σ : Type) where
  codec : Codec
  federation : FederationEnv
  manager : Manager σ
  decodeProofKey : Bytes → Option ProofKey
  b64UrlDecode : String → Option Bytes
  natsVerify : String → Bytes → Bytes → Bool
  decodeSignRequest : Bytes → Option SignInvocationRequest
  encodeSignResponse : SignInvocationResponse → Bytes
  requestHash : Bytes → FixedBytes 32
  unsealCose : String → Bytes → Proc σ ManagerError Bytes
  encryptTo : KeyId → FixedBytes 32 → String → Bytes → Cose.Claims → Option Bytes
  outerProtected : KeyId → Option Bytes
  assembleSign1 : Bytes → Bytes → Bytes → Bytes
  correlation : FixedBytes 32
  responseMessageId : MessageId
  clock : Reading → Nat
  others : Await → Shared σ → Shared σ

variable {σ : Type}

def yield (w : World σ) (point : Await) : Proc (Run σ) Status Unit :=
  ofFun fun s => (.ok (), { s with shared := w.others point s.shared })

def emit (event : Event) : Proc (Run σ) Status Unit :=
  ofFun fun s => (.ok (), { s with log := s.log ++ [event] })

def onStore {ε α : Type} (p : Proc σ ε α) : Proc (Run σ) ε α :=
  ofFun fun s =>
    ((p.exec s.shared.store).1,
      { s with shared := { s.shared with store := (p.exec s.shared.store).2 } })

def unauthorizedInvocation : Status :=
  ⟨.permissionDenied, "UNAUTHORIZED", invokeOp, "not authorized"⟩

def invalid (message : String) : Status := invalidRequest invokeOp message

/-! ### The outer signature -/

mutual
def findLeaf {β : Type} (f : EvidencePredicate → Option β) : EvidenceExpression → Option β
  | .leaf predicate => f predicate
  | .all children => findLeafIn f children
  | .any children => findLeafIn f children

def findLeafIn {β : Type} (f : EvidencePredicate → Option β) : List EvidenceExpression → Option β
  | [] => none
  | child :: rest => (findLeaf f child).or (findLeafIn f rest)
end

section Preflight

variable (w : World σ) (config : InvocationConfig)

/-- `ed25519_sign::verify`, with a malformed signature counted as invalid. -/
def ed25519Verifies (key : ProofKey) (message signature : Bytes) : Bool :=
  (FixedBytes.ofBytes? 64 signature).any (w.manager.prims.ed25519Verify key message)

def decodeEd25519Public (text : String) : Option ProofKey :=
  (w.b64UrlDecode text).bind (FixedBytes.ofBytes? 32)

def predicateSignatureVerifies (keyId : KeyId) (sigStructure signature : Bytes) :
    EvidencePredicate → Option SignatureKeyEvidence
  | .invocationSignatureKey .ed25519 text =>
      if (decodeEd25519Public w text).any fun key => ed25519Verifies w key sigStructure signature
      then some ⟨.ed25519, text⟩ else none
  | .invocationSignatureKey .natsNkey text =>
      if keyId.asCatalogName = some text ∧ w.natsVerify text sigStructure signature = true
      then some ⟨.natsNkey, text⟩ else none
  | _ => none

/-- `PolicyVerifier::verify`: a presented proof key is the only key tried. -/
def policyVerify (policy : ResolvedPolicy) : Verifier SignatureKeyEvidence :=
  fun keyId algorithm headers sigStructure signature =>
    match headers.signerPublicKeyCose with
    | some proofKey => do
        let key ← orErr (w.decodeProofKey proofKey) .signatureInvalid
        ensure (keyId.bytes = Cbor.textBytes (proofKeyKid w.federation key) ∧ algorithm = .edDsa ∧
          ed25519Verifies w key sigStructure signature = true) .signatureInvalid
        return ⟨.ed25519, w.federation.b64UrlNoPad key.bytes⟩
    | none => do
        ensure (algorithm = .edDsa) .algorithmMismatch
        orErr (policy.subjects.entries.findSome? fun e =>
          findLeaf (predicateSignatureVerifies w keyId sigStructure signature) e.2.matchExpr)
          .signatureInvalid

def verifyStatus : VerifyError → Status
  | .signatureInvalid | .unknownKeyId | .algorithmMismatch => unauthorizedInvocation
  | error => invalid error.display

/-- With a federation the audience is the matched rule's concern. -/
def requestValidationParams (allowProviderAudience : Bool) : Except Status ValidationParams := do
  let audiences ← collect (fun audience : String =>
    if h : audience ≠ "" then .ok (⟨audience, h⟩ : Subject)
    else .error (invalid "subject string must be non-empty")) config.audiences
  return {
    now := w.clock .validation
    maxClockSkew := config.clockSkewSecs
    maxTtl := config.maxTtlSecs
    defaultTtl := defaultExpiresAfterSecs
    allowedAudiences := if allowProviderAudience then [] else audiences
    role := .request }

variable (g : ServingGeneration w.federation)

def verifyRequest (message : Bytes) : Except Status (VerifiedSealed × SignatureKeyEvidence) := do
  ensure (message ≠ []) (invalid "missing sealed COSE message")
  let params ← requestValidationParams w config g.federation.isSome
  (verifySealed w.codec message (policyVerify w g.policy) [] params).mapError verifyStatus

/-! ### Provider proof -/

def providerToken (headers : ProtectedHeaders) : Except Status (Option String) :=
  if headers.signerCertificatesJwt = [] then .ok none
  else some <$> (exactlyOneBoundedToken headers.signerCertificatesJwt).mapError fun e =>
    invalid e.display

def proofPublic (headers : ProtectedHeaders) (token : Option String) :
    Except Status (Option ProofKey) :=
  match headers.signerPublicKeyCose with
  | none => .ok none
  | some proofKey => do
      let key ← orErr (w.decodeProofKey proofKey) (invalid "malformed proof key")
      ensure (token.isSome = true) (invalid "missing signer certificate")
      return some key

def verifyEvidence (token : String) (key : ProofKey) :
    Proc (Run σ) Status VerifiedProviderEvidence :=
  ofFun fun s =>
    match verifyProviderEvidence w.federation g.access token key w.correlation (w.clock .evidence)
      g.federation s.shared.jwksCaches with
    | (some evidence, caches) =>
        (.ok evidence, ⟨{ s.shared with jwksCaches := caches },
          s.log ++ [.evidenceVerified evidence]⟩)
    | (none, caches) =>
        (.error unauthorizedInvocation,
          { s with shared := { s.shared with jwksCaches := caches } })

def providerEvidence (token : Option String) (key : Option ProofKey) :
    Proc (Run σ) Status (Option VerifiedProviderEvidence) :=
  match token with
  | none => pure none
  | some token => do
      let key ← check (orErr key (invalid "missing proof key"))
      yield w .evidence
      let evidence ← verifyEvidence w g token key
      return some evidence

def validateProviderEnvelopeAuthority (evidence : VerifiedProviderEvidence)
    (sealed : VerifiedSealed) : Except Status String := do
  ensure (sealed.claims.audience.map (·.1) = some evidence.brokerAudience ∧
    evidence.brokerAudience ∈ config.audiences) (invalid "provider broker audience rejected")
  ensure (sealed.contentType = contentTypeSignRequest ∧
    .artifactSign ∈ evidence.operationProfiles) (invalid "provider operation profile rejected")
  let target ← orErr (sealed.protectedHeaders.operationTargetKeyId.bind KeyId.asCatalogName)
    (invalid "provider operation target missing or invalid")
  ensure (target ∈ evidence.artifactSignKeyIds) (invalid "provider operation target rejected")
  return target

def operationTarget (evidence : Option VerifiedProviderEvidence) (sealed : VerifiedSealed) :
    Except Status (Option String) :=
  match evidence with
  | some evidence => some <$> validateProviderEnvelopeAuthority config evidence sealed
  | none => do
      ensure (sealed.protectedHeaders.operationTargetKeyId = none)
        (invalid "operation target requires provider proof")
      return none

/-- Without provider evidence the claimed audience is one of the configured ones, if any is. -/
def checkAudience (evidence : Option VerifiedProviderEvidence) (claims : Cose.Claims) :
    Except Status Unit :=
  ensure (evidence.isSome = true ∨ config.audiences = [] ∨
    (claims.audience.any fun audience => decide (audience.1 ∈ config.audiences)) = true)
    (invalid "invocation audience rejected")

/-! ### The response recipient -/

def catalogKeyId (keyId : KeyId) (field : String) : Except Status String :=
  orErr keyId.asCatalogName (invalid (field ++ " must be UTF-8"))

def requiredResponseKeyId (claims : Cose.Claims) : Except Status String := do
  let keyId ← orErr claims.responseKeyId (invalid "missing response encryption key")
  catalogKeyId keyId "response encryption key"

def validateCatalogResponseEncryptionKey (keyId : String) : Except Status Unit := do
  let entry ← orErr (g.catalog.keys.get? keyId)
    (invalid ("unknown response encryption key `" ++ keyId ++ "`"))
  ensure (entry.keyClass = .sealing) (invalid "response encryption key must be class `sealing`")
  ensure (entry.labels.get brokerKeyUseLabel = some brokerResponseEncryptionUse)
    (invalid "response encryption key missing expected `broker_key_use`")

/-- The two shapes are disjoint: a verified proof takes the key of the claims, and nothing
else does. -/
def resolveResponseRecipient (claims : Cose.Claims) (providerVerified : Bool) :
    Except Status ResponseRecipient := do
  let keyId ← requiredResponseKeyId claims
  match providerVerified, claims.responsePublicKeyCose with
  | true, some key => do
      ensure (Cbor.textBytes keyId = Cbor.textBytes (w.codec.responseThumbprint key))
        (invalid "response key id does not match ephemeral response public key")
      return .ephemeral keyId key
  | true, none =>
      throw (invalid "provider-proof request is missing an ephemeral response public key")
  | false, some _ =>
      throw (invalid "ephemeral response public key requires verified provider proof")
  | false, none => do
      validateCatalogResponseEncryptionKey w g keyId
      return .catalog keyId

structure Envelope where
  message : Bytes
  sealed : VerifiedSealed
  verifiedKey : SignatureKeyEvidence
  proofKey : Option ProofKey
  evidence : Option VerifiedProviderEvidence
  target : Option String
  recipient : ResponseRecipient
  uid : Nat

def admitEnvelope (peer : PeerInfo) (message : Bytes) : Proc (Run σ) Status Envelope := do
  let verified ← check (verifyRequest w config g message)
  let token ← check (providerToken verified.1.protectedHeaders)
  let key ← check (proofPublic w verified.1.protectedHeaders token)
  let evidence ← providerEvidence w g token key
  let target ← check (operationTarget config evidence verified.1)
  check (checkAudience config evidence verified.1.claims)
  let recipient ← check (resolveResponseRecipient w g verified.1.claims evidence.isSome)
  let uid ← check (orErr peer.uid unauthorizedInvocation)
  return ⟨message, verified.1, verified.2, key, evidence, target, recipient, uid⟩

/-! ### Freshness, actor and quota -/

def challengeJkt (e : Envelope) : Except Status Jkt :=
  match e.proofKey with
  | some key => .ok (proofKeyThumbprint w.federation key)
  | none => do
      ensure (e.verifiedKey.algorithm = .ed25519)
        (invalid "freshness challenge requires an Ed25519 invocation signature key")
      let key ← orErr (decodeEd25519Public w e.verifiedKey.publicKey)
        (invalid "verified signature key is malformed")
      return proofKeyThumbprint w.federation key

def consumeChallenge (challenge : FixedBytes 32) (jkt : Jkt) : Proc (Run σ) Status Bool :=
  ofFun fun s =>
    match s.shared.challengeTable.consume challenge.bytes jkt g.id (w.clock .freshness) with
    | (table, .ok ()) =>
        (.ok true, ⟨{ s.shared with challengeTable := table },
          s.log ++ [.challengeConsumed challenge jkt g.id]⟩)
    | (table, .error _) =>
        (.ok false, { s with shared := { s.shared with challengeTable := table } })

def consumeFreshnessChallenge (e : Envelope) : Proc (Run σ) Status Bool :=
  match e.sealed.claims.freshnessChallenge with
  | none => pure (!(e.proofKey.isSome || config.requireChallenge))
  | some challenge => do
      let jkt ← check (challengeJkt w e)
      yield w .freshness
      consumeChallenge w g challenge jkt

def resolveActor (peer : PeerInfo) (e : Envelope) : Except Status AuthenticatedActor :=
  match e.evidence with
  | some evidence => do
      let actor ← orErr (g.pdp.resolveSubjectActor evidence.subject) unauthorizedInvocation
      return { actor with presenter := peer }
  | none =>
      (resolveEvidenceActor g.policy
        { hostProcessSnapshot g.config peer e.uid with
          invocationSignatureKey := some e.verifiedKey } peer).mapError fun _ =>
        unauthorizedInvocation

def checkIssuer (e : Envelope) (actor : AuthenticatedActor) : Except Status Unit :=
  ensure (∀ issuer ∈ e.sealed.claims.issuer, issuer.1 = actor.subject) unauthorizedInvocation

def quotaKey (evidence : VerifiedProviderEvidence) : RunQuotaKey :=
  ⟨evidence.ruleId, evidence.claims.runId, evidence.claims.runAttempt⟩

def chargeRunQuota (evidence : VerifiedProviderEvidence) :
    Proc (Run σ) Status (Option SealedDenial) :=
  ofFun fun s =>
    match s.shared.runQuota.chargeWithReceipt g.id (quotaKey evidence)
      evidence.maxOperationsPerRun evidence.runBucketRetentionSecs (w.clock .quota) with
    | (table, .ok receipt) =>
        (.ok none, ⟨{ s.shared with runQuota := table },
          s.log ++ [.quotaCharged g.id (quotaKey evidence) receipt]⟩)
    | (table, .error denied) =>
        (.ok (some (.ofQuota denied)), { s with shared := { s.shared with runQuota := table } })

def chargeQuota (e : Envelope) : Proc (Run σ) Status (Option SealedDenial) :=
  match e.evidence with
  | none => pure none
  | some evidence => do
      yield w .quota
      chargeRunQuota w g evidence

/-! ### Decryption -/

def validateRequestRecipientKey (recipientKeyId : String) : Except Status Unit := do
  let expected ← orErr config.requestEncryptionKeyId
    (invalid "no invocation request encryption key configured")
  ensure (recipientKeyId = expected) (invalid "sealed request recipient key mismatch")

def authorizeDecrypt (e : Envelope) (actor : AuthenticatedActor) : Except Status String := do
  let recipientKeyId ← catalogKeyId e.sealed.recipientKeyId "recipient key id"
  validateRequestRecipientKey config recipientKeyId
  ensure (g.pdp.allows actor .decrypt recipientKeyId = true) unauthorizedInvocation
  return recipientKeyId

def sealingPublicKey (m : Manager σ) (keyId : String) : Proc σ ManagerError (FixedBytes 32) := do
  let routed ← m.route keyId
  check (requireClass "get_public_key" keyId routed.entry.keyClass [.sealing])
  check (requireX25519SealingKey keyId routed.entry.keyType)
  let publicBytes ← m.readPublicHalf keyId "get_public_key" [.sealing]
  check ((X25519Seal.publicFromSlice publicBytes).mapError sealingFailure)

def validateCatalogMaterial (e : Envelope) : Proc (Run σ) Status Unit :=
  match e.recipient with
  | .ephemeral _ _ => pure ()
  | .catalog keyId => do
      yield w .material
      let _ ← (onStore (sealingPublicKey w.manager keyId)).mapErr (managerStatus invokeOp)
      return ()

def openRequest (e : Envelope) (recipientKeyId : String) : Proc (Run σ) Status Bytes := do
  check (ensure (e.sealed.parties = .anonymous)
    (invalid "KDF party identities do not match expectation"))
  yield w .opening
  (onStore (w.unsealCose recipientKeyId e.sealed.encryptBytes)).mapErr fun _ => invalid "open failed"

structure PreparedInvocation where
  envelope : Envelope
  actor : AuthenticatedActor
  body : Bytes

inductive PreparedRequest where
  | proceed (prepared : PreparedInvocation)
  | denied (envelope : Envelope) (denial : SealedDenial)

def prepareCharged (e : Envelope) (actor : AuthenticatedActor) :
    Proc (Run σ) Status PreparedRequest := do
  let recipientKeyId ← check (authorizeDecrypt w config g e actor)
  validateCatalogMaterial w e
  let body ← openRequest w e recipientKeyId
  return .proceed ⟨e, actor, body⟩

def prepareFresh (peer : PeerInfo) (e : Envelope) : Proc (Run σ) Status PreparedRequest := do
  let actor ← check (resolveActor w g peer e)
  check (checkIssuer e actor)
  let denial ← chargeQuota w g e
  match denial with
  | some denial => return .denied e denial
  | none => prepareCharged w config g e actor

def prepareInvocation (peer : PeerInfo) (message : Bytes) : Proc (Run σ) Status PreparedRequest := do
  let e ← admitEnvelope w config g peer message
  let fresh ← consumeFreshnessChallenge w config g e
  if fresh = true then prepareFresh w config g peer e
  else return .denied e .challengeUnknown

/-! ### The sealed response -/

structure SealedResponse where
  message : Bytes
  responseSubject : Option String

def responseProtectionFailed : Status :=
  ⟨.internal, "INVOCATION_RESPONSE_PROTECTION_FAILED", invokeOp,
    "invocation response protection failed"⟩

def signWith (site : SignSite) (keyId : String) (message : Bytes) :
    Proc (Run σ) ManagerError Bytes :=
  ofFun fun s =>
    match (w.manager.sign keyId message).exec s.shared.store with
    | (.ok signature, store) =>
        (.ok signature, ⟨{ s.shared with store := store },
          s.log ++ [.backendSigned site keyId message signature]⟩)
    | (.error error, store) =>
        (.error error, { s with shared := { s.shared with store := store } })

/-- The catalog key is read again; the key of the claims is taken as it is. -/
def recipientPublic (recipient : ResponseRecipient) : Proc (Run σ) Status (FixedBytes 32) :=
  match recipient with
  | .catalog keyId =>
      (onStore (sealingPublicKey w.manager keyId)).mapErr fun _ => responseProtectionFailed
  | .ephemeral _ key => pure key

def responseClaims (e : Envelope) (issuer : Subject) (signer : KeyId) : Cose.Claims where
  issuer := some issuer
  audience := none
  expiresAt := some (min (w.clock .response + defaultExpiresAfterSecs) u32Max : Nat)
  issuedAt := w.clock .response
  messageId := w.responseMessageId
  senderKeyId := some signer
  responseKeyId := none
  responseSubject := none
  inReplyTo := some e.sealed.claims.messageId
  requestHash := some (w.requestHash e.message)
  freshnessChallenge := none
  responsePublicKeyCose := none

def sealResponse (recipient : KeyId) (key : FixedBytes 32) (signer : KeyId)
    (claims : Cose.Claims) (body : Bytes) : Except Status (Bytes × Bytes) := do
  (claims.validateRole w.codec .response).mapError fun _ => responseProtectionFailed
  ensure (claims.senderKeyId = some signer) responseProtectionFailed
  let payload ← orErr (w.encryptTo recipient key contentTypeSignResponse body claims)
    responseProtectionFailed
  let outer ← orErr (w.outerProtected signer) responseProtectionFailed
  return (payload, outer)

def protectResponse (e : Envelope) (body : SignInvocationResponse) :
    Proc (Run σ) Status SealedResponse := do
  let identity ← check (orErr config.brokerIdentity responseProtectionFailed)
  yield w .response
  let key ← recipientPublic w e.recipient
  let signer ← check (orErr (KeyId.fromText identity.responseSigningKeyId)
    responseProtectionFailed)
  let issuer ← check (if h : identity.id ≠ "" then .ok (⟨identity.id, h⟩ : Subject)
    else .error responseProtectionFailed)
  let recipient ← check (orErr (KeyId.fromText e.recipient.keyId) responseProtectionFailed)
  let (payload, outer) ← check (sealResponse w recipient key signer
    (responseClaims w e issuer signer) (w.encodeSignResponse body))
  emit (.responseSealed e.recipient key)
  let signingKeyId ← check (orErr signer.asCatalogName responseProtectionFailed)
  let signature ← (signWith w .response signingKeyId
    (w.codec.sigStructure outer [] payload)).mapErr fun _ => responseProtectionFailed
  check (ensure (signature ≠ []) responseProtectionFailed)
  return ⟨w.assembleSign1 outer payload signature, e.sealed.claims.responseSubject⟩

/-! ### Execution -/

def respondStatus (e : Envelope) (status : InvocationStatus) : Proc (Run σ) Status SealedResponse :=
  protectResponse w config e ⟨status, g.id, none⟩

/-- The target of verified evidence replaces the key id of the body. -/
def signTarget (e : Envelope) (request : SignInvocationRequest) : String :=
  e.target.getD request.keyId

def signOperation (p : PreparedInvocation) (request : SignInvocationRequest) :
    Proc (Run σ) Status SealedResponse := do
  yield w .operation
  let answer ← attempt (signWith w .operation (signTarget p.envelope request) request.message)
  match answer with
  | .ok signature => protectResponse w config p.envelope ⟨.ok, g.id, some signature⟩
  | .error _ => respondStatus w config g p.envelope .internalError

def executeSignInvocation (p : PreparedInvocation) : Proc (Run σ) Status SealedResponse :=
  match w.decodeSignRequest p.body with
  | none => respondStatus w config g p.envelope (.invalidRequest "INVALID_REQUEST_BODY")
  | some request =>
      if (ensureSupportedSigningAlgorithm request.algorithm invokeOp).isOk = false then
        respondStatus w config g p.envelope (.invalidRequest "UNSUPPORTED_SIGNING_ALGORITHM")
      else if g.pdp.allows p.actor .sign (signTarget p.envelope request) = false then
        respondStatus w config g p.envelope .denied
      else signOperation w config g p request

def executeInvocation (p : PreparedInvocation) : Proc (Run σ) Status SealedResponse :=
  if p.envelope.sealed.contentType = contentTypeSignRequest then
    executeSignInvocation w config g p
  else respondStatus w config g p.envelope (.invalidRequest "UNSUPPORTED_CONTENT_TYPE")

def invoke (peer : PeerInfo) (message : Bytes) : Proc (Run σ) Status SealedResponse := do
  check (ensure (config.enabled = true) ⟨.failedPrecondition, "INVOCATION_DISABLED", invokeOp,
    "InvocationService is disabled; set invocation.enable=true to accept sealed invocations"⟩)
  let prepared ← prepareInvocation w config g peer message
  match prepared with
  | .proceed p => executeInvocation w config g p
  | .denied e denial => respondStatus w config g e denial.status

end Preflight

end Basil.Invocation
