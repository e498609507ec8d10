import Basil.CiFederation

/-!
# Provider tokens (`core/ci_federation.rs`)
-/

namespace Basil.CiFederation

open Jwt Cose

variable (env : FederationEnv)

/-! ### Proof keys -/

abbrev ProofKey := FixedBytes 32

def proofKeyThumbprint (key : ProofKey) : FixedBytes 32 :=
  env.sha256 (Cbor.textBytes ("\x7b\"crv\":\"Ed25519\",\"kty\":\"OKP\",\"x\":\"" ++
    env.b64UrlNoPad key.bytes ++ "\"\x7d"))

def thumbprint (key : ProofKey) : String := env.b64UrlNoPad (proofKeyThumbprint env key).bytes

def proofAudience (key : ProofKey) : String := proofAudienceBase ++ thumbprint env key

def proofKeyKid (key : ProofKey) : String := thumbprint env key

def exactlyOneBoundedToken : List String → Except FederationError String
  | [token] => do
      ensure (token ≠ "") .tokenRejected
      ensure (token.utf8ByteSize ≤ maxTokenBytes) (.oversized "token")
      return token
  | _ => .error .malformed

/-! ### Claims -/

def strField (claims : Jwt.Claims) (name : String) : Except FederationError String :=
  orErr (claims.strClaim name) .tokenRejected

def optStrField (claims : Jwt.Claims) (name : String) : Except FederationError (Option String) :=
  match claims.lookup name with
  | none | some .null => .ok none
  | some (.str s) => .ok (some s)
  | some _ => .error .tokenRejected

def u64Value : JsonValue → Except FederationError Nat
  | .num (.ofNat n) => do
      ensure (n ≤ u64Max) .tokenRejected
      return n
  | _ => .error .tokenRejected

def u64Field (claims : Jwt.Claims) (name : String) : Except FederationError Nat := do
  u64Value (← orErr (claims.lookup name) .tokenRejected)

def optU64Field (claims : Jwt.Claims) (name : String) : Except FederationError (Option Nat) :=
  match claims.lookup name with
  | none | some .null => .ok none
  | some v => some <$> u64Value v

def present (claims : Jwt.Claims) (name : String) : Bool :=
  match claims.lookup name with
  | none | some .null => false
  | some _ => true

structure GithubClaims where
  iss : String
  aud : String
  sub : String
  repository : String
  repositoryId : String
  repositoryOwnerId : String
  actorId : Option String
  eventName : String
  refField : String
  jobWorkflowRef : String
  jobWorkflowSha : String
  runnerEnvironment : String
  environment : Option String
  runId : String
  runAttempt : String
  jti : String
  iat : Nat
  nbf : Option Nat
  exp : Nat

def GithubClaims.parse (claims : Jwt.Claims) : Except FederationError GithubClaims := do
  return {
    iss := ← strField claims "iss"
    aud := ← strField claims "aud"
    sub := ← strField claims "sub"
    repository := ← strField claims "repository"
    repositoryId := ← strField claims "repository_id"
    repositoryOwnerId := ← strField claims "repository_owner_id"
    actorId := ← optStrField claims "actor_id"
    eventName := ← strField claims "event_name"
    refField := ← strField claims "ref"
    jobWorkflowRef := ← strField claims "job_workflow_ref"
    jobWorkflowSha := ← strField claims "job_workflow_sha"
    runnerEnvironment := ← strField claims "runner_environment"
    environment := ← optStrField claims "environment"
    runId := ← strField claims "run_id"
    runAttempt := ← strField claims "run_attempt"
    jti := ← strField claims "jti"
    iat := ← u64Field claims "iat"
    nbf := ← optU64Field claims "nbf"
    exp := ← u64Field claims "exp" }

structure ForgejoClaims where
  iss : String
  aud : String
  sub : String
  repository : String
  repositoryId : String
  repositoryOwnerId : String
  actorId : Option String
  eventName : String
  refField : String
  refType : String
  sha : String
  workflowRef : String
  runId : String
  runAttempt : String
  environmentPresent : Bool
  jobWorkflowRefPresent : Bool
  jobWorkflowShaPresent : Bool
  jti : String
  iat : Nat
  nbf : Option Nat
  exp : Nat

def ForgejoClaims.parse (claims : Jwt.Claims) : Except FederationError ForgejoClaims := do
  return {
    iss := ← strField claims "iss"
    aud := ← strField claims "aud"
    sub := ← strField claims "sub"
    repository := ← strField claims "repository"
    repositoryId := ← strField claims "repository_id"
    repositoryOwnerId := ← strField claims "repository_owner_id"
    actorId := ← optStrField claims "actor_id"
    eventName := ← strField claims "event_name"
    refField := ← strField claims "ref"
    refType := ← strField claims "ref_type"
    sha := ← strField claims "sha"
    workflowRef := ← strField claims "workflow_ref"
    runId := ← strField claims "run_id"
    runAttempt := ← strField claims "run_attempt"
    environmentPresent := present claims "environment"
    jobWorkflowRefPresent := present claims "job_workflow_ref"
    jobWorkflowShaPresent := present claims "job_workflow_sha"
    jti := ← strField claims "jti"
    iat := ← u64Field claims "iat"
    nbf := ← optU64Field claims "nbf"
    exp := ← u64Field claims "exp" }

def validateAuditClaims (values : List (String × Nat)) : Except FederationError Unit :=
  ensure (∀ v ∈ values, sized v.2 v.1 ∧ controlFree v.1 = true) .providerRejected

def validateGithubAuditClaims (claims : GithubClaims) : Except FederationError Unit :=
  validateAuditClaims ([(claims.iss, maxProviderUrlBytes), (claims.aud, maxAuditWorkflowBytes),
    (claims.sub, maxAuditWorkflowBytes), (claims.repository, maxAuditTextBytes),
    (claims.eventName, maxAuditShortBytes), (claims.refField, maxAuditTextBytes),
    (claims.jobWorkflowRef, maxAuditWorkflowBytes), (claims.jobWorkflowSha, maxAuditShortBytes),
    (claims.runnerEnvironment, maxAuditShortBytes), (claims.jti, maxAuditWorkflowBytes)] ++
    claims.environment.toList.map fun environment => (environment, maxAuditTextBytes))

def validateForgejoAuditClaims (claims : ForgejoClaims) : Except FederationError Unit :=
  validateAuditClaims [(claims.iss, maxProviderUrlBytes), (claims.aud, maxAuditWorkflowBytes),
    (claims.sub, maxAuditWorkflowBytes), (claims.repository, maxAuditTextBytes),
    (claims.eventName, maxAuditShortBytes), (claims.refField, maxAuditTextBytes),
    (claims.refType, maxAuditShortBytes), (claims.sha, maxAuditShortBytes),
    (claims.workflowRef, maxAuditWorkflowBytes), (claims.jti, maxAuditWorkflowBytes)]

def decimal (value : String) : Except FederationError Nat :=
  orErr ((Text.parseDecimal value).filter (· ≤ u64Max)) .malformed

def correlationDigest (correlation : FixedBytes 32) (domain : String) (data : Bytes) :
    FixedBytes 32 :=
  env.hmacSha256 correlation (UInt8.ofNat (min domain.utf8ByteSize 255) :: (Cbor.textBytes domain ++ data))

def tokenDigest (correlation : FixedBytes 32) (token : String) : FixedBytes 32 :=
  correlationDigest env correlation "basil-ci-token" (Cbor.textBytes token)

/-! ### Verification against one rule -/

def proofValidation (issuer audience : String) : Validation where
  algorithm := .rs256
  leeway := 0
  requiredSpecClaims := ["exp", "iss", "aud"]
  iss := some [issuer]
  aud := some [audience]

/-- The claims of a token signed by a key of the set, for the proof key's audience. -/
def decodeToken (issuer : String) (jwks : GenerationJwks) (token : String) (key : ProofKey) :
    Except FederationError Jwt.Claims := do
  let header ← orErr (env.decodeHeader token) .tokenRejected
  ensure (header.alg = .rs256) .tokenRejected
  let kid ← orErr header.kid .tokenRejected
  let jwk ← orErr (jwks.key kid) .tokenRejected
  orErr (env.decode token jwk (proofValidation issuer (proofAudience env key))) .tokenRejected

/-- The temporal checks, with the rule's skew as the only tolerance. -/
def timesOk (skew maxAge iat exp now : Nat) (nbf : Option Nat) : Prop :=
  iat ≤ exp ∧ iat ≤ satAddU64 now skew ∧ (∀ t ∈ nbf, t ≤ satAddU64 now skew) ∧
    now ≤ satAddU64 exp skew ∧ now - iat ≤ maxAge

instance (skew maxAge iat exp now : Nat) (nbf : Option Nat) :
    Decidable (timesOk skew maxAge iat exp now nbf) :=
  inferInstanceAs (Decidable (_ ∧ _ ∧ _ ∧ _ ∧ _))

structure GithubEvidence where
  repositoryId : Nat
  repositoryOwnerId : Nat
  repository : String
  actorId : Option Nat
  workflowRef : String
  workflowSha : String
  refName : String
  eventName : String
  runnerEnvironment : String
  environment : Option String
  runId : Nat
  runAttempt : Nat
  jtiDigest : FixedBytes 32
  tokenDigest : FixedBytes 32
  deriving DecidableEq

structure ForgejoEvidence where
  repositoryId : Nat
  repositoryOwnerId : Nat
  repository : String
  actorId : Option Nat
  workflowRef : String
  refName : String
  refType : String
  sha : String
  runId : Nat
  runAttempt : Nat
  eventName : String
  jtiDigest : FixedBytes 32
  tokenDigest : FixedBytes 32
  deriving DecidableEq

def optDecimal : Option String → Except FederationError (Option Nat)
  | none => .ok none
  | some value => some <$> decimal value

def checkGithubClaims (rule : GithubActionsRule) (claims : GithubClaims) (key : ProofKey)
    (now : Nat) : Except FederationError Unit := do
  ensure (claims.iss = rule.issuer ∧ claims.aud = proofAudience env key ∧ claims.sub ≠ "" ∧
    claims.repository ≠ "") .providerRejected
  let repositoryId ← decimal claims.repositoryId
  ensure (repositoryId = rule.repositoryId) .providerRejected
  let ownerId ← decimal claims.repositoryOwnerId
  ensure (ownerId = rule.repositoryOwnerId ∧
    timesOk rule.clockSkewSecs rule.maxTokenAgeSecs claims.iat claims.exp now claims.nbf ∧
    claims.refField ∈ rule.protectedRefs ∧ claims.eventName ∈ rule.events ∧
    claims.runnerEnvironment ∈ rule.runnerEnvironments ∧ rule.environment = claims.environment ∧
    claims.jobWorkflowRef = rule.jobWorkflowRef ∧ claims.jobWorkflowSha = rule.jobWorkflowSha)
    .providerRejected
  ensure (claims.jti ≠ "") .providerRejected

def githubEvidence (correlation : FixedBytes 32) (token : String) (claims : GithubClaims) :
    Except FederationError GithubEvidence := do
  return {
    repositoryId := ← decimal claims.repositoryId
    repositoryOwnerId := ← decimal claims.repositoryOwnerId
    repository := claims.repository
    actorId := ← optDecimal claims.actorId
    workflowRef := claims.jobWorkflowRef
    workflowSha := claims.jobWorkflowSha
    refName := claims.refField
    eventName := claims.eventName
    runnerEnvironment := claims.runnerEnvironment
    environment := claims.environment
    runId := ← decimal claims.runId
    runAttempt := ← decimal claims.runAttempt
    jtiDigest := correlationDigest env correlation "basil-ci-jti" (Cbor.textBytes claims.jti)
    tokenDigest := tokenDigest env correlation token }

def verifyGithub (rule : GithubActionsRule) (jwks : GenerationJwks) (token : String)
    (key : ProofKey) (correlation : FixedBytes 32) (now : Nat) :
    Except FederationError GithubEvidence := do
  ensure (token.utf8ByteSize ≤ maxTokenBytes) (.oversized "token")
  validateGithubRule rule
  validateUrls env rule.issuer rule.discoveryUrl rule.jwksUrl
  let payload ← decodeToken env rule.issuer jwks token key
  let claims ← GithubClaims.parse payload
  validateGithubAuditClaims claims
  checkGithubClaims env rule claims key now
  githubEvidence env correlation token claims

def sameRepository (workflowRef repository : String) : Bool :=
  (Text.stripLead repository workflowRef).any fun rest => (Text.stripLead "/" rest).isSome

def checkForgejoClaims (rule : ForgejoActionsRule) (claims : ForgejoClaims) (key : ProofKey)
    (now : Nat) : Except FederationError Unit := do
  ensure (claims.iss = rule.issuer ∧ claims.aud = proofAudience env key ∧ claims.sub ≠ "" ∧
    claims.repository ≠ "") .providerRejected
  let repositoryId ← decimal claims.repositoryId
  ensure (repositoryId = rule.repositoryId) .providerRejected
  let ownerId ← decimal claims.repositoryOwnerId
  ensure (ownerId = rule.repositoryOwnerId ∧ claims.eventName = forgejoEvent ∧
    claims.refField = rule.refName ∧ claims.refType = rule.refType ∧ claims.sha = rule.sha ∧
    claims.workflowRef = rule.workflowRef ∧
    sameRepository claims.workflowRef claims.repository = true) .providerRejected
  let runId ← decimal claims.runId
  ensure (runId = rule.runId) .providerRejected
  let runAttempt ← decimal claims.runAttempt
  ensure (runAttempt = rule.runAttempt ∧ claims.environmentPresent = false ∧
    claims.jobWorkflowRefPresent = false ∧ claims.jobWorkflowShaPresent = false ∧
    timesOk rule.clockSkewSecs rule.maxTokenAgeSecs claims.iat claims.exp now claims.nbf ∧
    rule.notBeforeUnix ≤ now ∧ now ≤ rule.expiresAtUnix ∧ claims.jti ≠ "") .providerRejected

def forgejoEvidence (correlation : FixedBytes 32) (token : String) (claims : ForgejoClaims) :
    Except FederationError ForgejoEvidence := do
  return {
    repositoryId := ← decimal claims.repositoryId
    repositoryOwnerId := ← decimal claims.repositoryOwnerId
    repository := claims.repository
    actorId := ← optDecimal claims.actorId
    workflowRef := claims.workflowRef
    refName := claims.refField
    refType := claims.refType
    sha := claims.sha
    runId := ← decimal claims.runId
    runAttempt := ← decimal claims.runAttempt
    eventName := claims.eventName
    jtiDigest := correlationDigest env correlation "basil-ci-jti" (Cbor.textBytes claims.jti)
    tokenDigest := tokenDigest env correlation token }

def verifyForgejo (rule : ForgejoActionsRule) (jwks : GenerationJwks) (token : String)
    (key : ProofKey) (correlation : FixedBytes 32) (now : Nat) :
    Except FederationError ForgejoEvidence := do
  ensure (token.utf8ByteSize ≤ maxTokenBytes) (.oversized "token")
  validateForgejoRule env rule
  validateUrls env rule.issuer rule.discoveryUrl rule.jwksUrl
  let payload ← decodeToken env rule.issuer jwks token key
  let claims ← ForgejoClaims.parse payload
  validateForgejoAuditClaims claims
  checkForgejoClaims env rule claims key now
  forgejoEvidence env correlation token claims

/-! ### What an accepted token satisfies -/

variable {env}

variable {token : String} {jwks : GenerationJwks} {key : ProofKey} {payload : Jwt.Claims}
  {now : Nat}

theorem exactlyOneBoundedToken_ok {tokens : List String}
    (h : exactlyOneBoundedToken tokens = .ok token) : tokens = [token] := by
  match tokens, h with
  | [found], h =>
    simp only [exactlyOneBoundedToken, eq_ok] at h
    obtain ⟨_, -, _, -, rfl⟩ := h
    rfl

theorem decodeToken_ok {issuer : String} (h : decodeToken env issuer jwks token key = .ok payload) :
    env.payload token = some payload ∧
      ∃ kid jwk, jwks.key kid = some jwk ∧ env.signatureValid token jwk.n jwk.e = true := by
  simp only [decodeToken, eq_ok] at h
  obtain ⟨_, -, _, -, kid, -, jwk, hjwk, hdecode⟩ := h
  simp only [FederationEnv.decode, Option.filter_eq_some_iff, Bool.and_eq_true] at hdecode
  obtain ⟨hpayload, ⟨⟨hsignature, -⟩, -⟩, -⟩ := hdecode
  exact ⟨hpayload, kid, jwk, hjwk, hsignature⟩

theorem verifyGithub_ok {rule : GithubActionsRule} {correlation : FixedBytes 32}
    {evidence : GithubEvidence}
    (h : verifyGithub env rule jwks token key correlation now = .ok evidence) :
    ∃ payload claims, decodeToken env rule.issuer jwks token key = .ok payload ∧
      GithubClaims.parse payload = .ok claims ∧ validateGithubRule rule = .ok () ∧
      checkGithubClaims env rule claims key now = .ok () ∧
      githubEvidence env correlation token claims = .ok evidence := by
  simp only [verifyGithub, bind_eq_ok] at h
  obtain ⟨_, -, _, hrule, _, -, payload, hpayload, claims, hclaims, _, -, _, hcheck, hevidence⟩ := h
  exact ⟨payload, claims, hpayload, hclaims, hrule, hcheck, hevidence⟩

theorem verifyForgejo_ok {rule : ForgejoActionsRule} {correlation : FixedBytes 32}
    {evidence : ForgejoEvidence}
    (h : verifyForgejo env rule jwks token key correlation now = .ok evidence) :
    ∃ payload claims, decodeToken env rule.issuer jwks token key = .ok payload ∧
      ForgejoClaims.parse payload = .ok claims ∧ validateForgejoRule env rule = .ok () ∧
      checkForgejoClaims env rule claims key now = .ok () ∧
      forgejoEvidence env correlation token claims = .ok evidence := by
  simp only [verifyForgejo, bind_eq_ok] at h
  obtain ⟨_, -, _, hrule, _, -, payload, hpayload, claims, hclaims, _, -, _, hcheck, hevidence⟩ := h
  exact ⟨payload, claims, hpayload, hclaims, hrule, hcheck, hevidence⟩

theorem GithubClaims.parse_iss {claims : GithubClaims} (h : GithubClaims.parse payload = .ok claims) :
    payload.strClaim "iss" = some claims.iss ∧ payload.strClaim "aud" = some claims.aud := by
  simp only [GithubClaims.parse, strField, eq_ok] at h
  obtain ⟨iss, hiss, aud, haud, h⟩ := h
  -- the last round substitutes the record itself
  repeat obtain ⟨_, -, h⟩ := h
  exact ⟨hiss, haud⟩

theorem ForgejoClaims.parse_iss {claims : ForgejoClaims}
    (h : ForgejoClaims.parse payload = .ok claims) :
    payload.strClaim "iss" = some claims.iss ∧ payload.strClaim "aud" = some claims.aud := by
  simp only [ForgejoClaims.parse, strField, eq_ok] at h
  obtain ⟨iss, hiss, aud, haud, h⟩ := h
  repeat obtain ⟨_, -, h⟩ := h
  exact ⟨hiss, haud⟩

theorem checkGithubClaims_ok {rule : GithubActionsRule} {claims : GithubClaims}
    (h : checkGithubClaims env rule claims key now = .ok ()) :
    (claims.iss = rule.issuer ∧ claims.aud = proofAudience env key) ∧
      decimal claims.repositoryId = .ok rule.repositoryId ∧
      decimal claims.repositoryOwnerId = .ok rule.repositoryOwnerId ∧
      claims.refField ∈ rule.protectedRefs ∧ claims.eventName ∈ rule.events ∧
      claims.runnerEnvironment ∈ rule.runnerEnvironments ∧ rule.environment = claims.environment ∧
      claims.jobWorkflowRef = rule.jobWorkflowRef ∧
      claims.jobWorkflowSha = rule.jobWorkflowSha := by
  simp only [checkGithubClaims, eq_ok] at h
  obtain ⟨_, ⟨hiss, haud, -⟩, repositoryId, hrepository, _, rfl, _, howner, _, hrest, -⟩ := h
  obtain ⟨rfl, -, href, hevent, hrunner, henvironment, hworkflow, hsha⟩ := hrest
  exact ⟨⟨hiss, haud⟩, hrepository, howner, href, hevent, hrunner, henvironment, hworkflow, hsha⟩

theorem checkForgejoClaims_ok {rule : ForgejoActionsRule} {claims : ForgejoClaims}
    (h : checkForgejoClaims env rule claims key now = .ok ()) :
    (claims.iss = rule.issuer ∧ claims.aud = proofAudience env key) ∧
      decimal claims.repositoryId = .ok rule.repositoryId ∧
      decimal claims.repositoryOwnerId = .ok rule.repositoryOwnerId ∧
      claims.refField = rule.refName ∧ claims.refType = rule.refType ∧ claims.sha = rule.sha ∧
      claims.workflowRef = rule.workflowRef ∧ decimal claims.runId = .ok rule.runId ∧
      decimal claims.runAttempt = .ok rule.runAttempt := by
  simp only [checkForgejoClaims, eq_ok] at h
  obtain ⟨_, ⟨hiss, haud, -⟩, repositoryId, hrepository, _, rfl, _, howner, _, hselectors,
    runId, hrun, _, rfl, runAttempt, hattempt, hrest⟩ := h
  obtain ⟨rfl, -, href, htype, hsha, hworkflow, -⟩ := hselectors
  obtain ⟨rfl, -⟩ := hrest
  exact ⟨⟨hiss, haud⟩, hrepository, howner, href, htype, hsha, hworkflow, hrun, hattempt⟩

end Basil.CiFederation
