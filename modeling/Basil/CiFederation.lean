import Basil.Cose
import Basil.Jwt
import Basil.Lib.OrdMap
import Basil.RunQuota

/-!
# CI workload federation (`core/ci_federation.rs`)

The `url`, `jsonwebtoken`, hash and base64 crates and the files of custom trust roots are
parameters.
-/

namespace Basil.CiFederation

open Jwt

def maxTokenBytes : Nat := 32 * 1024
def maxAuditShortBytes : Nat := 128
def maxAuditTextBytes : Nat := 256
def maxAuditWorkflowBytes : Nat := 512
def maxProviderUrlBytes : Nat := 512
def githubIssuer : String := "https://token.actions.githubusercontent.com"
def forgejoIssuerPath : String := "/api/actions"
def forgejoEvent : String := "push"
def maxForgejoGrantSecs : Nat := 15 * 60
def maxRuleIdBytes : Nat := 128
def maxSubjectBytes : Nat := 256
def maxAudienceBytes : Nat := 256
def maxOperationProfiles : Nat := 32
def maxArtifactSignKeyIds : Nat := 64
def maxProviderRules : Nat := 64
def proofAudienceBase : String := "urn:basil:ci:jkt:"

inductive FederationError where
  | oversized (what : String)
  | malformed
  | providerRejected
  | tokenRejected
  | invalidUrl
  | invalidCaBundle
  | experimentalProviderDisabled (kind : String)
  | duplicateRuleId
  | overlappingRules
  | noMatchingRule
  | ambiguousRule
  | missingRunQuota (id : String)
  | invalidRunQuota (id : String)
  | unsupportedArtifactSignTarget
  deriving DecidableEq

def FederationError.display : FederationError → String
  | oversized what => "oversized " ++ what
  | malformed => "malformed federation input"
  | providerRejected => "provider identity rejected"
  | tokenRejected => "token verification failed"
  | invalidUrl => "invalid provider URL"
  | invalidCaBundle => "invalid provider CA bundle"
  | experimentalProviderDisabled kind =>
      "provider " ++ kind ++ " is in the experimental tier: outside the security guarantees, " ++
        "and loadable only when named in the `experimentalProviders` opt-in"
  | duplicateRuleId => "duplicate provider rule ID"
  | overlappingRules => "overlapping provider rules"
  | noMatchingRule => "no provider rule matched"
  | ambiguousRule => "ambiguous provider rule selection"
  | missingRunQuota id =>
      "provider rule `" ++ id ++ "` is missing `maxOperationsPerRun`: every rule must declare a " ++
        "per-run operation quota, and there is no unlimited default"
  | invalidRunQuota id =>
      "provider rule `" ++ id ++ "` declares `maxOperationsPerRun` 0: the per-run operation " ++
        "quota must be at least 1"
  | unsupportedArtifactSignTarget => "unsupported federated artifact-sign target"

/-! ### Rules -/

structure GithubActionsRule where
  issuer : String
  discoveryUrl : String
  jwksUrl : String
  caBundlePath : Option String
  audiencePrefix : String
  repositoryId : Nat
  repositoryOwnerId : Nat
  jobWorkflowRef : String
  jobWorkflowSha : String
  protectedRefs : List String
  events : List String
  runnerEnvironments : List String
  environment : Option String
  maxTokenAgeSecs : Nat
  clockSkewSecs : Nat
  deriving DecidableEq

structure ForgejoActionsRule where
  issuer : String
  discoveryUrl : String
  jwksUrl : String
  caBundlePath : Option String
  audiencePrefix : String
  repositoryId : Nat
  repositoryOwnerId : Nat
  workflowRef : String
  refName : String
  refType : String
  sha : String
  runId : Nat
  runAttempt : Nat
  notBeforeUnix : Nat
  expiresAtUnix : Nat
  maxTokenAgeSecs : Nat
  clockSkewSecs : Nat
  deriving DecidableEq

inductive ProviderKind where
  | githubActions
  | forgejoActions
  deriving DecidableEq

inductive ProviderOperationProfile where
  | artifactSign
  deriving DecidableEq

def ProviderKind.configName : ProviderKind → String
  | githubActions => "githubActions"
  | forgejoActions => "forgejoActions"

def ProviderKind.isExperimental : ProviderKind → Bool
  | githubActions => false
  | forgejoActions => true

inductive ProviderConfig where
  | githubActions (rule : GithubActionsRule)
  | forgejoActions (rule : ForgejoActionsRule)
  deriving DecidableEq

namespace ProviderConfig

def kind : ProviderConfig → ProviderKind
  | githubActions _ => .githubActions
  | forgejoActions _ => .forgejoActions

def issuer : ProviderConfig → String
  | githubActions rule => rule.issuer
  | forgejoActions rule => rule.issuer

def discoveryUrl : ProviderConfig → String
  | githubActions rule => rule.discoveryUrl
  | forgejoActions rule => rule.discoveryUrl

def jwksUrl : ProviderConfig → String
  | githubActions rule => rule.jwksUrl
  | forgejoActions rule => rule.jwksUrl

def caBundlePath : ProviderConfig → Option String
  | githubActions rule => rule.caBundlePath
  | forgejoActions rule => rule.caBundlePath

def ruleTimeBounds : ProviderConfig → Nat × Nat
  | githubActions rule => (rule.maxTokenAgeSecs, rule.clockSkewSecs)
  | forgejoActions rule => (rule.maxTokenAgeSecs, rule.clockSkewSecs)

end ProviderConfig

structure ProviderRule where
  id : String
  subject : String
  audience : String
  operationProfiles : List ProviderOperationProfile
  artifactSignKeyIds : List String
  maxTokenAgeSecs : Nat
  clockSkewSecs : Nat
  maxOperationsPerRun : Option Nat
  provider : ProviderConfig
  deriving DecidableEq

/-! ### The crates below -/

structure Url where
  scheme : String
  username : String
  password : Option String
  host : String
  port : Nat
  path : String
  query : Option String
  fragment : Option String
  serialization : String

def Url.origin (url : Url) : String × String × Nat := (url.scheme, url.host, url.port)

inductive TokenAlgorithm where
  | hs256 | hs384 | hs512
  | es256 | es384
  | rs256 | rs384 | rs512
  | ps256 | ps384 | ps512
  | edDsa
  deriving DecidableEq

structure TokenHeader where
  alg : TokenAlgorithm
  kid : Option String

structure RsaJwk where
  kid : String
  n : String
  e : String
  deriving DecidableEq

structure GenerationJwks where
  generation : Nat
  keys : OrdMap String RsaJwk

def GenerationJwks.key (jwks : GenerationJwks) (kid : String) : Option RsaJwk := jwks.keys.get? kid

structure FederationEnv where
  parseUrl : String → Option Url
  githubIssuer_path : ∀ url, parseUrl githubIssuer = some url → url.path = "/"
  caBundleOk : String → Bool
  decodeHeader : String → Option TokenHeader
  payload : String → Option Claims
  signatureValid : String → String → String → Bool
  sha256 : Bytes → FixedBytes 32
  hmacSha256 : FixedBytes 32 → Bytes → FixedBytes 32
  b64UrlNoPad : Bytes → String

variable (env : FederationEnv)

/-- `jsonwebtoken::decode` with the temporal checks off: the token's own claims, once its
signature, issuer and audience are verified. -/
def FederationEnv.decode (token : String) (key : RsaJwk) (v : Validation) : Option Claims :=
  (env.payload token).filter fun claims =>
    env.signatureValid token key.n key.e && v.requiredSpecClaims.all (specClaimPresent claims) &&
      v.issOk claims && v.audOk claims

/-! ### Checks of a rule -/

def validateGithubRule (rule : GithubActionsRule) : Except FederationError Unit :=
  ensure (rule.issuer = githubIssuer ∧ rule.audiencePrefix = proofAudienceBase ∧
    rule.repositoryId ≠ 0 ∧ rule.repositoryOwnerId ≠ 0 ∧ rule.jobWorkflowRef ≠ "" ∧
    rule.jobWorkflowSha ≠ "" ∧ rule.protectedRefs ≠ [] ∧ rule.events ≠ [] ∧
    rule.runnerEnvironments ≠ [] ∧ rule.maxTokenAgeSecs ≠ 0 ∧ rule.maxTokenAgeSecs ≤ 15 * 60 ∧
    rule.clockSkewSecs ≤ 5 * 60) .providerRejected

def issuerPathOk (issuer : String) : Bool :=
  (env.parseUrl issuer).any fun url => (Text.stripTail forgejoIssuerPath url.path).isSome

def refConsistent (rule : ForgejoActionsRule) : Bool :=
  if rule.refType = "branch" then (Text.stripLead "refs/heads/" rule.refName).isSome
  else if rule.refType = "tag" then (Text.stripLead "refs/tags/" rule.refName).isSome
  else false

def shaOk (sha : String) : Bool :=
  (sha.utf8ByteSize == 40 || sha.utf8ByteSize == 64) &&
    sha.toList.all fun c => c.isDigit || (decide ('a' ≤ c) && decide (c ≤ 'f'))

def validateForgejoRule (rule : ForgejoActionsRule) : Except FederationError Unit :=
  ensure (issuerPathOk env rule.issuer = true ∧ rule.audiencePrefix = proofAudienceBase ∧
    rule.repositoryId ≠ 0 ∧ rule.repositoryOwnerId ≠ 0 ∧ rule.workflowRef ≠ "" ∧
    refConsistent rule = true ∧ shaOk rule.sha = true ∧ rule.runId ≠ 0 ∧ rule.runAttempt ≠ 0 ∧
    rule.notBeforeUnix < rule.expiresAtUnix ∧
    rule.expiresAtUnix - rule.notBeforeUnix ≤ maxForgejoGrantSecs ∧ rule.maxTokenAgeSecs ≠ 0 ∧
    rule.maxTokenAgeSecs ≤ 15 * 60 ∧ rule.clockSkewSecs ≤ 5 * 60) .providerRejected

def Url.plainHttps (url : Url) : Prop :=
  url.scheme = "https" ∧ url.username = "" ∧ url.password = none ∧ url.query = none ∧
    url.fragment = none

instance (url : Url) : Decidable url.plainHttps :=
  inferInstanceAs (Decidable (_ ∧ _ ∧ _ ∧ _ ∧ _))

def validateUrls (issuer discovery jwks : String) : Except FederationError Unit := do
  ensure (issuer.utf8ByteSize ≤ maxProviderUrlBytes ∧ discovery.utf8ByteSize ≤ maxProviderUrlBytes ∧
    jwks.utf8ByteSize ≤ maxProviderUrlBytes) .invalidUrl
  let issuerUrl ← orErr (env.parseUrl issuer) .invalidUrl
  let discoveryUrl ← orErr (env.parseUrl discovery) .invalidUrl
  let jwksUrl ← orErr (env.parseUrl jwks) .invalidUrl
  ensure (issuerUrl.plainHttps ∧ discoveryUrl.plainHttps ∧ jwksUrl.plainHttps ∧
    issuerUrl.origin = discoveryUrl.origin ∧ discoveryUrl.origin = jwksUrl.origin ∧
    Text.trimEndMatches '/' issuer = Text.trimEndMatches '/' issuerUrl.serialization) .invalidUrl

def ProviderConfig.validate (provider : ProviderConfig) : Except FederationError Unit := do
  match provider with
  | .githubActions rule => validateGithubRule rule
  | .forgejoActions rule => validateForgejoRule env rule
  validateUrls env provider.issuer provider.discoveryUrl provider.jwksUrl

def controlFree (value : String) : Bool := !value.toList.any Text.isControl

def sized (max : Nat) (value : String) : Prop := value ≠ "" ∧ value.utf8ByteSize ≤ max

instance (max : Nat) (value : String) : Decidable (sized max value) :=
  inferInstanceAs (Decidable (_ ∧ _))

def validateRunQuota (rule : ProviderRule) : Except FederationError Unit :=
  match rule.maxOperationsPerRun with
  | none => .error (.missingRunQuota rule.id)
  | some 0 => .error (.invalidRunQuota rule.id)
  | some _ => .ok ()

def validateCommonRule (rule : ProviderRule) : Except FederationError Unit := do
  ensure (sized maxRuleIdBytes rule.id ∧ sized maxSubjectBytes rule.subject ∧
    sized maxAudienceBytes rule.audience ∧ rule.operationProfiles ≠ [] ∧
    rule.operationProfiles.length ≤ maxOperationProfiles ∧ rule.artifactSignKeyIds ≠ [] ∧
    rule.artifactSignKeyIds.length ≤ maxArtifactSignKeyIds ∧ rule.maxTokenAgeSecs ≠ 0 ∧
    rule.maxTokenAgeSecs ≤ 15 * 60 ∧ rule.clockSkewSecs ≤ 5 * 60) .providerRejected
  ensure (controlFree rule.id = true ∧ controlFree rule.subject = true ∧
    controlFree rule.audience = true) .providerRejected
  ensure (rule.operationProfiles.Nodup ∧ .artifactSign ∈ rule.operationProfiles) .providerRejected
  ensure ((∀ keyId ∈ rule.artifactSignKeyIds, (Cose.KeyId.fromText keyId).isSome = true ∧
    controlFree keyId = true) ∧ rule.artifactSignKeyIds.Nodup) .providerRejected
  validateRunQuota rule

/-! ### Overlap of rules -/

def shareValue (left right : List String) : Bool :=
  left.any fun value => right.any fun other => other == value

def githubRulesOverlap (left right : GithubActionsRule) : Bool :=
  left.repositoryId == right.repositoryId && left.repositoryOwnerId == right.repositoryOwnerId &&
    left.jobWorkflowRef == right.jobWorkflowRef && left.jobWorkflowSha == right.jobWorkflowSha &&
    shareValue left.protectedRefs right.protectedRefs && shareValue left.events right.events &&
    shareValue left.runnerEnvironments right.runnerEnvironments

def forgejoRulesOverlap (left right : ForgejoActionsRule) : Bool :=
  left.repositoryId == right.repositoryId && left.repositoryOwnerId == right.repositoryOwnerId &&
    left.workflowRef == right.workflowRef && left.refName == right.refName &&
    left.refType == right.refType && left.sha == right.sha && left.runId == right.runId &&
    left.runAttempt == right.runAttempt

def rulesOverlap (left right : ProviderRule) : Bool :=
  match left.provider, right.provider with
  | .githubActions left, .githubActions right => githubRulesOverlap left right
  | .forgejoActions left, .forgejoActions right => forgejoRulesOverlap left right
  | _, _ => false

def anyOverlap : List ProviderRule → Bool
  | [] => false
  | left :: rest => rest.any (rulesOverlap left) || anyOverlap rest

/-! ### Construction of a catalog -/

def validateRules (experimental : List ProviderKind) :
    List String → List ProviderRule → Except FederationError Unit
  | _, [] => .ok ()
  | ids, rule :: rest => do
      validateCommonRule rule
      ensure (rule.id ∉ ids) .duplicateRuleId
      ensure (rule.provider.kind.isExperimental = true → rule.provider.kind ∈ experimental)
        (.experimentalProviderDisabled rule.provider.kind.configName)
      rule.provider.validate env
      ensure ((rule.maxTokenAgeSecs, rule.clockSkewSecs) = rule.provider.ruleTimeBounds)
        .providerRejected
      validateRules experimental (rule.id :: ids) rest

def resolveProviderTrust (rule : ProviderRule) : Except FederationError Unit :=
  match rule.provider.caBundlePath with
  | none => .ok ()
  | some path => ensure (env.caBundleOk path = true) .invalidCaBundle

def checkRules (rules : List ProviderRule) (experimental : List ProviderKind) :
    Except FederationError Unit := do
  ensure (rules.length ≤ maxProviderRules) (.oversized "provider catalog")
  validateRules env experimental [] rules
  ensure (anyOverlap rules = false) .overlappingRules
  let _ ← collect (resolveProviderTrust env) rules
  return ()

structure RuleValid (experimental : List ProviderKind) (rule : ProviderRule) : Prop where
  common : validateCommonRule rule = .ok ()
  tier : rule.provider.kind.isExperimental = true → rule.provider.kind ∈ experimental
  provider : rule.provider.validate env = .ok ()
  times : (rule.maxTokenAgeSecs, rule.clockSkewSecs) = rule.provider.ruleTimeBounds

variable {env}

variable {experimental : List ProviderKind} {rules : List ProviderRule}

theorem validateRules_ok {ids : List String} :
    validateRules env experimental ids rules = .ok () ↔
      (∀ rule ∈ rules, RuleValid env experimental rule) ∧ (rules.map (·.id)).Nodup ∧
        ∀ rule ∈ rules, rule.id ∉ ids := by
  induction rules generalizing ids with
  | nil => simp [validateRules]
  | cons rule rest ih =>
    simp only [validateRules, eq_ok, ih, List.map_cons, List.nodup_cons, List.mem_map,
      List.mem_cons, not_or, not_exists, not_and, forall_eq_or_imp]
    constructor
    · rintro ⟨_, hcommon, _, hnew, _, htier, _, hprovider, _, htimes, hvalid, hnodup, hfresh⟩
      refine ⟨⟨⟨hcommon, htier, hprovider, htimes⟩, hvalid⟩, ⟨?_, hnodup⟩, hnew, ?_⟩
      · intro other hother
        exact (hfresh other hother).1
      · intro other hother
        exact (hfresh other hother).2
    · rintro ⟨⟨hrule, hvalid⟩, ⟨hdistinct, hnodup⟩, hnew, hfresh⟩
      refine ⟨(), hrule.common, (), hnew, (), hrule.tier, (), hrule.provider, (), hrule.times,
        hvalid, hnodup, ?_⟩
      intro other hother
      exact ⟨hdistinct other hother, hfresh other hother⟩

theorem anyOverlap_eq_false :
    anyOverlap rules = false ↔ rules.Pairwise fun left right => rulesOverlap left right = false := by
  induction rules with
  | nil => simp [anyOverlap]
  | cons rule rest ih => simp [anyOverlap, ih, List.pairwise_cons]

theorem checkRules_ok :
    checkRules env rules experimental = .ok () ↔
      rules.length ≤ maxProviderRules ∧ (∀ rule ∈ rules, RuleValid env experimental rule) ∧
        (rules.map (·.id)).Nodup ∧
        (rules.Pairwise fun left right => rulesOverlap left right = false) ∧
        ∀ rule ∈ rules, resolveProviderTrust env rule = .ok () := by
  have hrules : validateRules env experimental [] rules = .ok () ↔
      (∀ rule ∈ rules, RuleValid env experimental rule) ∧ (rules.map (·.id)).Nodup := by
    rw [validateRules_ok]
    simp
  simp only [checkRules, eq_ok, anyOverlap_eq_false]
  constructor
  · rintro ⟨_, hlength, _, hvalid, _, hseparated, units, hunits, -⟩
    obtain ⟨hvalid, hnodup⟩ := hrules.mp hvalid
    exact ⟨hlength, hvalid, hnodup, hseparated, collect_unit.mp ⟨units, hunits⟩⟩
  · rintro ⟨hlength, hvalid, hnodup, hseparated, hresolved⟩
    obtain ⟨units, hunits⟩ := collect_unit.mpr hresolved
    exact ⟨(), hlength, (), hrules.mpr ⟨hvalid, hnodup⟩, (), hseparated, units, hunits, trivial⟩

/-- A catalog is built by its construction only, so its rules carry what that checks. -/
structure ProviderCatalog (env : FederationEnv) where
  rules : List ProviderRule
  validated : ∀ rule ∈ rules, rule.provider.validate env = .ok ()
  distinctIds : (rules.map (·.id)).Nodup
  separated : rules.Pairwise fun left right => rulesOverlap left right = false

variable (env)

def withExperimentalProviders (rules : List ProviderRule) (experimental : List ProviderKind) :
    Except FederationError (ProviderCatalog env) :=
  match h : checkRules env rules experimental with
  | .error e => .error e
  | .ok () => .ok
      { rules := rules
        validated := fun rule hrule => ((checkRules_ok.mp h).2.1 rule hrule).provider
        distinctIds := (checkRules_ok.mp h).2.2.1
        separated := (checkRules_ok.mp h).2.2.2.1 }

variable {env}

theorem withExperimentalProviders_ok :
    (∃ catalog, withExperimentalProviders env rules experimental = .ok catalog ∧
      catalog.rules = rules) ↔ checkRules env rules experimental = .ok () := by
  unfold withExperimentalProviders
  split <;> simp_all

end Basil.CiFederation
