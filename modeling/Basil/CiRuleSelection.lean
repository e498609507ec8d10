import Basil.CiToken
import Basil.Lib.Select

/-!
# Which rule a token authenticates to (`core/ci_federation.rs`, `service/invocation.rs`)

The serving path tries the rules in catalog order, each with the key set its own cache resolves,
and takes the first that verifies the token.
-/

namespace Basil.CiFederation

open Jwt Cose List

inductive ProviderClaimEvidence where
  | githubActions (evidence : GithubEvidence)
  | forgejoActions (evidence : ForgejoEvidence)
  deriving DecidableEq

namespace ProviderClaimEvidence

def runId : ProviderClaimEvidence → Nat
  | githubActions evidence => evidence.runId
  | forgejoActions evidence => evidence.runId

def runAttempt : ProviderClaimEvidence → Nat
  | githubActions evidence => evidence.runAttempt
  | forgejoActions evidence => evidence.runAttempt

end ProviderClaimEvidence

structure VerifiedProviderEvidence where
  provider : ProviderKind
  issuer : String
  ruleId : String
  subject : String
  brokerAudience : String
  operationProfiles : List ProviderOperationProfile
  artifactSignKeyIds : List String
  maxOperationsPerRun : Option Nat
  runBucketRetentionSecs : Nat
  claims : ProviderClaimEvidence
  deriving DecidableEq

section

variable (env : FederationEnv)

/-! ### Selection from typed evidence -/

structure GithubSelection where
  repositoryId : Nat
  repositoryOwnerId : Nat
  workflowRef : String
  workflowSha : String
  refName : String
  eventName : String
  runnerEnvironment : String
  environment : Option String

structure ForgejoSelection where
  repositoryId : Nat
  repositoryOwnerId : Nat
  workflowRef : String
  refName : String
  refType : String
  sha : String
  runId : Nat
  runAttempt : Nat

def githubSelects (selection : GithubSelection) (github : GithubActionsRule) : Bool :=
  github.repositoryId == selection.repositoryId &&
    github.repositoryOwnerId == selection.repositoryOwnerId &&
    github.jobWorkflowRef == selection.workflowRef &&
    github.jobWorkflowSha == selection.workflowSha &&
    github.protectedRefs.any (· == selection.refName) &&
    github.events.any (· == selection.eventName) &&
    github.runnerEnvironments.any (· == selection.runnerEnvironment) &&
    github.environment == selection.environment

def forgejoSelects (selection : ForgejoSelection) (forgejo : ForgejoActionsRule) : Bool :=
  forgejo.repositoryId == selection.repositoryId &&
    forgejo.repositoryOwnerId == selection.repositoryOwnerId &&
    forgejo.workflowRef == selection.workflowRef && forgejo.refName == selection.refName &&
    forgejo.refType == selection.refType && forgejo.sha == selection.sha &&
    forgejo.runId == selection.runId && forgejo.runAttempt == selection.runAttempt

def exactlyOne : List ProviderRule → Except FederationError ProviderRule
  | [] => .error .noMatchingRule
  | [rule] => .ok rule
  | _ :: _ :: _ => .error .ambiguousRule

def githubSelectsRule (selection : GithubSelection) (rule : ProviderRule) : Bool :=
  match rule.provider with
  | .githubActions github => githubSelects selection github
  | .forgejoActions _ => false

def forgejoSelectsRule (selection : ForgejoSelection) (rule : ProviderRule) : Bool :=
  match rule.provider with
  | .githubActions _ => false
  | .forgejoActions forgejo => forgejoSelects selection forgejo

def selectGithub {env : FederationEnv} (catalog : ProviderCatalog env)
    (selection : GithubSelection) : Except FederationError ProviderRule :=
  exactlyOne (catalog.rules.filter (githubSelectsRule selection))

def selectForgejo {env : FederationEnv} (catalog : ProviderCatalog env)
    (selection : ForgejoSelection) : Except FederationError ProviderRule :=
  exactlyOne (catalog.rules.filter (forgejoSelectsRule selection))

def GithubEvidence.selection (e : GithubEvidence) : GithubSelection :=
  ⟨e.repositoryId, e.repositoryOwnerId, e.workflowRef, e.workflowSha, e.refName, e.eventName,
    e.runnerEnvironment, e.environment⟩

def ForgejoEvidence.selection (e : ForgejoEvidence) : ForgejoSelection :=
  ⟨e.repositoryId, e.repositoryOwnerId, e.workflowRef, e.refName, e.refType, e.sha, e.runId,
    e.runAttempt⟩

def selectRule {env : FederationEnv} (catalog : ProviderCatalog env) :
    ProviderClaimEvidence → Except FederationError ProviderRule
  | .githubActions evidence => selectGithub catalog evidence.selection
  | .forgejoActions evidence => selectForgejo catalog evidence.selection

/-! ### Verification against the rules of a catalog -/

def verifyRule (jwks : GenerationJwks) (token : String) (key : ProofKey)
    (correlation : FixedBytes 32) (now : Nat) (rule : ProviderRule) :
    Except FederationError ProviderClaimEvidence :=
  match rule.provider with
  | .githubActions github =>
      .githubActions <$> verifyGithub env github jwks token key correlation now
  | .forgejoActions forgejo =>
      .forgejoActions <$> verifyForgejo env forgejo jwks token key correlation now

def evidenceOf (rule : ProviderRule) (claims : ProviderClaimEvidence) :
    VerifiedProviderEvidence where
  provider := rule.provider.kind
  issuer := rule.provider.issuer
  ruleId := rule.id
  subject := rule.subject
  brokerAudience := rule.audience
  operationProfiles := rule.operationProfiles
  artifactSignKeyIds := rule.artifactSignKeyIds
  maxOperationsPerRun := rule.maxOperationsPerRun
  runBucketRetentionSecs := satAddU64 rule.maxTokenAgeSecs rule.clockSkewSecs
  claims := claims

end

/-! ### Key sets of a serving generation -/

structure JwksCachePolicy where
  refreshCooldown : Nat
  maxAge : Nat
  staleIfError : Nat

def JwksCachePolicy.default : JwksCachePolicy := ⟨1, 300, 30⟩

structure GenerationJwksCache where
  policy : JwksCachePolicy
  keys : Option GenerationJwks
  fetchedAt : Option Nat
  lastRefreshAttempt : Option Nat

inductive ServeDecision where
  | fresh (keys : GenerationJwks)
  | revalidate (refreshAllowed : Bool) (stale : Option GenerationJwks)
  | unknownKid (refreshAllowed : Bool)

namespace GenerationJwksCache

def new (policy : JwksCachePolicy) : GenerationJwksCache := ⟨policy, none, none, none⟩

def shouldRefresh (cache : GenerationJwksCache) (now : Nat) : Bool :=
  cache.lastRefreshAttempt.all fun attempt =>
    decide (attempt ≤ now) && decide (cache.policy.refreshCooldown ≤ now - attempt)

def tryBeginRefresh (cache : GenerationJwksCache) (now : Nat) : Bool × GenerationJwksCache :=
  if cache.shouldRefresh now then (true, { cache with lastRefreshAttempt := some now })
  else (false, cache)

def keysWithin (cache : GenerationJwksCache) (window now : Nat) : Bool :=
  cache.keys.isSome && cache.fetchedAt.any fun fetched =>
    decide (fetched ≤ now) && decide (now - fetched ≤ window)

def keysAreFresh (cache : GenerationJwksCache) (now : Nat) : Bool :=
  cache.keysWithin cache.policy.maxAge now

def keysWithinStaleWindow (cache : GenerationJwksCache) (now : Nat) : Bool :=
  cache.keysWithin (cache.policy.maxAge + cache.policy.staleIfError) now

/-- An older fetch does not replace newer keys. -/
def install (cache : GenerationJwksCache) (keys : GenerationJwks) (now : Nat) :
    GenerationJwksCache :=
  if cache.fetchedAt.any fun installed => decide (now < installed) then cache
  else { cache with keys := some keys, fetchedAt := some now }

def serveOrRevalidate (cache : GenerationJwksCache) (kid : String) (now : Nat) :
    ServeDecision × GenerationJwksCache :=
  match cache.keys.filter fun keys => (keys.key kid).isSome with
  | some keys =>
      if cache.keysAreFresh now then (.fresh keys, cache)
      else
        let (refreshAllowed, cache') := cache.tryBeginRefresh now
        (.revalidate refreshAllowed (if cache.keysWithinStaleWindow now then some keys else none),
          cache')
  | none =>
      let (refreshAllowed, cache') := cache.tryBeginRefresh now
      (.unknownKid refreshAllowed, cache')

def resolve (cache : GenerationJwksCache) (fetched : Option GenerationJwks) (kid : String)
    (now : Nat) : Option GenerationJwks × GenerationJwksCache :=
  match cache.serveOrRevalidate kid now with
  | (.fresh keys, cache') => (some keys, cache')
  | (.revalidate refreshAllowed stale, cache') =>
      match if refreshAllowed then fetched else none with
      | some keys => (some keys, cache'.install keys now)
      | none => (stale, cache')
  | (.unknownKid refreshAllowed, cache') =>
      match if refreshAllowed then fetched else none with
      | some keys => (some keys, cache'.install keys now)
      | none => (none, cache')

end GenerationJwksCache

abbrev JwksCaches := Table String GenerationJwksCache

structure ProviderAccess where
  clients : List String
  fetch : ProviderConfig → Option GenerationJwks

section

variable (env : FederationEnv) (access : ProviderAccess) (token : String) (key : ProofKey)
  (correlation : FixedBytes 32) (now : Nat)

def resolveRuleJwks (rule : ProviderRule) (kid : String) (caches : JwksCaches) :
    Option GenerationJwks × JwksCaches :=
  if rule.id ∈ access.clients then
    match caches.lookup rule.id with
    | none => (none, caches)
    | some cache =>
        let (keys, cache') := cache.resolve (access.fetch rule.provider) kid now
        (keys, caches.insert rule.id cache')
  else (none, caches)

def serveRule (kid : String) (caches : JwksCaches) (rule : ProviderRule) :
    Option VerifiedProviderEvidence :=
  match (resolveRuleJwks access now rule kid caches).1 with
  | none => none
  | some keys =>
      match verifyRule env keys token key correlation now rule with
      | .ok claims => some (evidenceOf rule claims)
      | .error _ => none

def tryRules (kid : String) :
    List ProviderRule → JwksCaches → Option VerifiedProviderEvidence × JwksCaches
  | [], caches => (none, caches)
  | rule :: rest, caches =>
      match resolveRuleJwks access now rule kid caches with
      | (none, caches') => tryRules kid rest caches'
      | (some keys, caches') =>
          match verifyRule env keys token key correlation now rule with
          | .ok claims => (some (evidenceOf rule claims), caches')
          | .error _ => tryRules kid rest caches'

/-- `verify_provider_evidence`; every refusal is the same unauthorized status. -/
def verifyProviderEvidence (federation : Option (ProviderCatalog env)) (caches : JwksCaches) :
    Option VerifiedProviderEvidence × JwksCaches :=
  match federation with
  | none => (none, caches)
  | some catalog =>
      match (env.decodeHeader token).bind TokenHeader.kid with
      | none => (none, caches)
      | some kid => tryRules env access token key correlation now kid catalog.rules caches

end

/-! ### The evidence is the token's -/

section

variable {env : FederationEnv} {token : String} {key : ProofKey} {correlation : FixedBytes 32}
  {now : Nat}

def ProviderClaimEvidence.selects (evidence : ProviderClaimEvidence) (rule : ProviderRule) :
    Bool :=
  match evidence with
  | .githubActions e => githubSelectsRule e.selection rule
  | .forgejoActions e => forgejoSelectsRule e.selection rule

variable {e : GithubEvidence} {jwks jwks' : GenerationJwks} {rule left right : ProviderRule}
  {evidence : ProviderClaimEvidence} {rules : List ProviderRule} {caches : JwksCaches}

theorem verifyGithub_selects {rule : GithubActionsRule}
    (h : verifyGithub env rule jwks token key correlation now = .ok e) :
    githubSelects e.selection rule = true := by
  obtain ⟨_, _, -, -, -, hcheck, hevidence⟩ := verifyGithub_ok h
  obtain ⟨-, hrepository, howner, href, hevent, hrunner, henvironment, hworkflow, hsha⟩ :=
    checkGithubClaims_ok hcheck
  simp only [githubEvidence, eq_ok] at hevidence
  obtain ⟨repositoryId, hrepository', owner, howner', _, -, _, -, _, -, rfl⟩ := hevidence
  have hrepositories : rule.repositoryId = repositoryId :=
    Except.ok.inj (hrepository.symm.trans hrepository')
  have howners : rule.repositoryOwnerId = owner := Except.ok.inj (howner.symm.trans howner')
  simp [githubSelects, hrepositories, howners, GithubEvidence.selection, href, hevent, hrunner,
    henvironment, hworkflow, hsha]

theorem verifyForgejo_selects {rule : ForgejoActionsRule} {e : ForgejoEvidence}
    (h : verifyForgejo env rule jwks token key correlation now = .ok e) :
    forgejoSelects e.selection rule = true := by
  obtain ⟨_, _, -, -, -, hcheck, hevidence⟩ := verifyForgejo_ok h
  obtain ⟨-, hrepository, howner, href, htype, hsha, hworkflow, hrun, hattempt⟩ :=
    checkForgejoClaims_ok hcheck
  simp only [forgejoEvidence, eq_ok] at hevidence
  obtain ⟨repositoryId, hrepository', owner, howner', _, -, runId, hrun', attempt, hattempt',
    rfl⟩ := hevidence
  have hrepositories : rule.repositoryId = repositoryId :=
    Except.ok.inj (hrepository.symm.trans hrepository')
  have howners : rule.repositoryOwnerId = owner := Except.ok.inj (howner.symm.trans howner')
  have hruns : rule.runId = runId := Except.ok.inj (hrun.symm.trans hrun')
  have hattempts : rule.runAttempt = attempt := Except.ok.inj (hattempt.symm.trans hattempt')
  simp [forgejoSelects, hrepositories, howners, hruns, hattempts, ForgejoEvidence.selection, href,
    htype, hsha, hworkflow]

theorem verifyRule_ok (h : verifyRule env jwks token key correlation now rule = .ok evidence) :
    (∃ github e, rule.provider = .githubActions github ∧ evidence = .githubActions e ∧
      verifyGithub env github jwks token key correlation now = .ok e) ∨
    ∃ forgejo e, rule.provider = .forgejoActions forgejo ∧ evidence = .forgejoActions e ∧
      verifyForgejo env forgejo jwks token key correlation now = .ok e := by
  unfold verifyRule at h
  split at h
  · next github hprovider =>
    obtain ⟨e, he, rfl⟩ := map_eq_ok.mp h
    exact .inl ⟨github, e, hprovider, rfl, he⟩
  · next forgejo hprovider =>
    obtain ⟨e, he, rfl⟩ := map_eq_ok.mp h
    exact .inr ⟨forgejo, e, hprovider, rfl, he⟩

theorem verifyRule_selects (h : verifyRule env jwks token key correlation now rule = .ok evidence) :
    evidence.selects rule = true := by
  obtain ⟨_, e, hprovider, rfl, he⟩ | ⟨_, e, hprovider, rfl, he⟩ := verifyRule_ok h
  · simpa [ProviderClaimEvidence.selects, githubSelectsRule, hprovider] using verifyGithub_selects he
  · simpa [ProviderClaimEvidence.selects, forgejoSelectsRule, hprovider] using verifyForgejo_selects he

theorem validateForgejoRule_issuer {rule : ForgejoActionsRule}
    (h : validateForgejoRule env rule = .ok ()) : rule.issuer ≠ githubIssuer := by
  intro hissuer
  simp only [validateForgejoRule, ensure_eq_ok] at h
  have hpath : issuerPathOk env githubIssuer = true := hissuer ▸ h.1
  simp only [issuerPathOk, Option.any_eq_true] at hpath
  obtain ⟨url, hurl, htail⟩ := hpath
  rw [env.githubIssuer_path url hurl] at htail
  exact absurd htail (by decide)

theorem decodeToken_payload_unique {issuer issuer' : String} {payload payload' : Jwt.Claims}
    (h : decodeToken env issuer jwks token key = .ok payload)
    (h' : decodeToken env issuer' jwks' token key = .ok payload') : payload = payload' :=
  Option.some.inj ((decodeToken_ok h).1.symm.trans (decodeToken_ok h').1)

theorem not_verifyGithub_and_verifyForgejo {github : GithubActionsRule}
    {forgejo : ForgejoActionsRule} {e' : ForgejoEvidence}
    (h : verifyGithub env github jwks token key correlation now = .ok e)
    (h' : verifyForgejo env forgejo jwks' token key correlation now = .ok e') : False := by
  obtain ⟨_, claims, hdecode, hclaims, hrule, hcheck, -⟩ := verifyGithub_ok h
  obtain ⟨_, claims', hdecode', hclaims', hrule', hcheck', -⟩ := verifyForgejo_ok h'
  have hpayload := decodeToken_payload_unique hdecode hdecode'
  have hiss : claims.iss = claims'.iss := by
    have hiss' := (ForgejoClaims.parse_iss hclaims').1
    rw [← hpayload, (GithubClaims.parse_iss hclaims).1] at hiss'
    exact Option.some.inj hiss'
  have hgithub : github.issuer = githubIssuer := by
    simp only [validateGithubRule, ensure_eq_ok] at hrule
    exact hrule.1
  apply validateForgejoRule_issuer hrule'
  rw [← (checkForgejoClaims_ok hcheck').1.1, ← hiss, (checkGithubClaims_ok hcheck).1.1, hgithub]

theorem verifyRule_evidence_unique {rule' : ProviderRule} {evidence' : ProviderClaimEvidence}
    (h : verifyRule env jwks token key correlation now rule = .ok evidence)
    (h' : verifyRule env jwks' token key correlation now rule' = .ok evidence') :
    evidence = evidence' := by
  obtain ⟨_, e, -, rfl, he⟩ | ⟨_, e, -, rfl, he⟩ := verifyRule_ok h
  · obtain ⟨_, e', -, rfl, he'⟩ | ⟨_, e', -, rfl, he'⟩ := verifyRule_ok h'
    · obtain ⟨payload, claims, hdecode, hclaims, -, -, hevidence⟩ := verifyGithub_ok he
      obtain ⟨payload', claims', hdecode', hclaims', -, -, hevidence'⟩ := verifyGithub_ok he'
      rw [decodeToken_payload_unique hdecode hdecode', hclaims'] at hclaims
      cases hclaims
      rw [hevidence] at hevidence'
      cases hevidence'
      rfl
    · exact (not_verifyGithub_and_verifyForgejo he he').elim
  · obtain ⟨_, e', -, rfl, he'⟩ | ⟨_, e', -, rfl, he'⟩ := verifyRule_ok h'
    · exact (not_verifyGithub_and_verifyForgejo he' he).elim
    · obtain ⟨payload, claims, hdecode, hclaims, -, -, hevidence⟩ := verifyForgejo_ok he
      obtain ⟨payload', claims', hdecode', hclaims', -, -, hevidence'⟩ := verifyForgejo_ok he'
      rw [decodeToken_payload_unique hdecode hdecode', hclaims'] at hclaims
      cases hclaims
      rw [hevidence] at hevidence'
      cases hevidence'
      rfl

/-! ### No two rules accept one token -/

theorem shareValue_of_mem {left right : List String} {value : String} (hl : value ∈ left)
    (hr : value ∈ right) : shareValue left right = true := by
  simp only [shareValue, any_eq_true]
  exact ⟨value, hl, value, hr, by simp⟩

theorem githubSelects_overlap {selection : GithubSelection} {left right : GithubActionsRule}
    (hl : githubSelects selection left = true) (hr : githubSelects selection right = true) :
    githubRulesOverlap left right = true := by
  simp only [githubSelects, Bool.and_eq_true, beq_iff_eq, any_beq', contains_iff_mem,
    and_assoc] at hl hr
  obtain ⟨hrepository, howner, hworkflow, hsha, href, hevent, hrunner, -⟩ := hl
  obtain ⟨hrepository', howner', hworkflow', hsha', href', hevent', hrunner', -⟩ := hr
  simp [githubRulesOverlap, hrepository, howner, hworkflow, hsha, hrepository', howner', hworkflow',
    hsha', shareValue_of_mem href href', shareValue_of_mem hevent hevent',
    shareValue_of_mem hrunner hrunner']

theorem githubSelectsRule_overlap {selection : GithubSelection}
    (hl : githubSelectsRule selection left = true) (hr : githubSelectsRule selection right = true) :
    rulesOverlap left right = true := by
  unfold githubSelectsRule at hl hr
  cases hleft : left.provider with
  | forgejoActions => simp [hleft] at hl
  | githubActions =>
    cases hright : right.provider with
    | forgejoActions => simp [hright] at hr
    | githubActions =>
      rw [hleft] at hl
      rw [hright] at hr
      simpa [rulesOverlap, hleft, hright] using githubSelects_overlap hl hr

theorem forgejoSelectsRule_overlap {selection : ForgejoSelection}
    (hl : forgejoSelectsRule selection left = true) (hr : forgejoSelectsRule selection right = true) :
    rulesOverlap left right = true := by
  unfold forgejoSelectsRule at hl hr
  cases hleft : left.provider with
  | githubActions => simp [hleft] at hl
  | forgejoActions =>
    cases hright : right.provider with
    | githubActions => simp [hright] at hr
    | forgejoActions =>
      simp only [hleft, forgejoSelects, Bool.and_eq_true, beq_iff_eq] at hl
      simp only [hright, forgejoSelects, Bool.and_eq_true, beq_iff_eq] at hr
      simp [rulesOverlap, hleft, hright, forgejoRulesOverlap, hl, hr]

theorem selects_overlap (hl : evidence.selects left = true) (hr : evidence.selects right = true) :
    rulesOverlap left right = true := by
  cases evidence with
  | githubActions => exact githubSelectsRule_overlap hl hr
  | forgejoActions => exact forgejoSelectsRule_overlap hl hr

variable (catalog : ProviderCatalog env)

theorem ProviderCatalog.filter_length_le_one {p : ProviderRule → Bool}
    (h : ∀ {left right}, p left = true → p right = true → rulesOverlap left right = true) :
    (catalog.rules.filter p).length ≤ 1 := by
  apply Basil.filter_length_le_one
  apply catalog.separated.imp
  intro left right hseparate hl
  cases hr : p right with
  | false => rfl
  | true =>
    rw [h hl hr] at hseparate
    cases hseparate

theorem exactlyOne_ne_ambiguous (h : rules.length ≤ 1) :
    exactlyOne rules ≠ .error .ambiguousRule := by
  cases rules with
  | nil => simp [exactlyOne]
  | cons rule rest =>
    cases rest with
    | nil => simp [exactlyOne]
    | cons => simp at h

theorem exactlyOne_filter {p : ProviderRule → Bool} (h : (rules.filter p).length ≤ 1)
    (hmem : rule ∈ rules) (hp : p rule = true) : exactlyOne (rules.filter p) = .ok rule := by
  have hfiltered : rule ∈ rules.filter p := mem_filter.mpr ⟨hmem, hp⟩
  generalize rules.filter p = found at h hfiltered
  cases found with
  | nil => cases hfiltered
  | cons first rest =>
    cases rest with
    | nil =>
      rw [mem_singleton] at hfiltered
      rw [hfiltered]
      rfl
    | cons => simp at h

theorem selection_unambiguous :
    (∀ selection, selectGithub catalog selection ≠ .error .ambiguousRule) ∧
      ∀ selection, selectForgejo catalog selection ≠ .error .ambiguousRule := by
  constructor
  · intro selection
    exact exactlyOne_ne_ambiguous (catalog.filter_length_le_one githubSelectsRule_overlap)
  · intro selection
    exact exactlyOne_ne_ambiguous (catalog.filter_length_le_one forgejoSelectsRule_overlap)

theorem selectRule_verified (hmem : rule ∈ catalog.rules)
    (h : verifyRule env jwks token key correlation now rule = .ok evidence) :
    selectRule catalog evidence = .ok rule := by
  have hselects := verifyRule_selects h
  cases evidence with
  | githubActions =>
    exact exactlyOne_filter (catalog.filter_length_le_one githubSelectsRule_overlap) hmem hselects
  | forgejoActions =>
    exact exactlyOne_filter (catalog.filter_length_le_one forgejoSelectsRule_overlap) hmem hselects

theorem accepting_overlap {evidence' : ProviderClaimEvidence}
    (hl : verifyRule env jwks token key correlation now left = .ok evidence)
    (hr : verifyRule env jwks' token key correlation now right = .ok evidence') :
    rulesOverlap left right = true := by
  apply selects_overlap (verifyRule_selects hl)
  rw [verifyRule_evidence_unique hl hr]
  exact verifyRule_selects hr

/-! ### The order of the rules does not matter -/

variable {access : ProviderAccess} {kid : String}

theorem resolveRuleJwks_congr {caches' : JwksCaches}
    (h : caches.lookup rule.id = caches'.lookup rule.id) :
    (resolveRuleJwks access now rule kid caches).1 =
      (resolveRuleJwks access now rule kid caches').1 := by
  unfold resolveRuleJwks
  rw [h]
  split
  · cases caches'.lookup rule.id <;> rfl
  · rfl

theorem resolveRuleJwks_lookup {id : String} (h : id ≠ rule.id) :
    (resolveRuleJwks access now rule kid caches).2.lookup id = caches.lookup id := by
  unfold resolveRuleJwks
  split
  · cases caches.lookup rule.id with
    | none => rfl
    | some cache =>
      rw [Table.lookup_insert_eq, if_neg h]
  · rfl

theorem serveRule_eq_some {evidence : VerifiedProviderEvidence}
    (h : serveRule env access token key correlation now kid caches rule = some evidence) :
    ∃ keys claims, verifyRule env keys token key correlation now rule = .ok claims ∧
      evidence = evidenceOf rule claims := by
  unfold serveRule at h
  split at h
  · cases h
  · next keys _ =>
    split at h
    · next claims hclaims =>
      cases h
      exact ⟨keys, claims, hclaims, rfl⟩
    · cases h

theorem tryRules_fst (hids : (rules.map (·.id)).Nodup) (caches : JwksCaches) :
    (tryRules env access token key correlation now kid rules caches).1 =
      rules.findSome? (serveRule env access token key correlation now kid caches) := by
  induction rules generalizing caches with
  | nil => rfl
  | cons rule rest ih =>
    rw [map_cons, nodup_cons] at hids
    have hrest : ∀ caches', (∀ id, id ≠ rule.id → caches'.lookup id = caches.lookup id) →
        (tryRules env access token key correlation now kid rest caches').1 =
          rest.findSome? (serveRule env access token key correlation now kid caches) := by
      intro caches' hsame
      rw [ih hids.2]
      apply findSome?_congr_mem
      intro other hother
      have hne : other.id ≠ rule.id := by
        intro heq
        exact hids.1 (heq ▸ mem_map_of_mem hother)
      unfold serveRule
      rw [resolveRuleJwks_congr (hsame other.id hne)]
    have hkept : ∀ id, id ≠ rule.id →
        (resolveRuleJwks access now rule kid caches).2.lookup id = caches.lookup id :=
      fun id hid => resolveRuleJwks_lookup hid
    unfold tryRules
    rw [findSome?_cons]
    conv_rhs => unfold serveRule
    rcases hresolve : resolveRuleJwks access now rule kid caches with ⟨_ | keys, caches'⟩
    · rw [hresolve] at hkept
      exact hrest caches' hkept
    · rw [hresolve] at hkept
      dsimp only
      cases verifyRule env keys token key correlation now rule with
      | ok claims => rfl
      | error e => exact hrest caches' hkept

theorem serveRule_pairwise (caches : JwksCaches) :
    catalog.rules.Pairwise fun left right =>
      serveRule env access token key correlation now kid caches left ≠ none →
        serveRule env access token key correlation now kid caches right = none := by
  apply catalog.separated.imp
  intro left right hseparate hl
  rw [← Option.isSome_iff_ne_none, Option.isSome_iff_exists] at hl
  obtain ⟨_, hevidence⟩ := hl
  rw [Option.eq_none_iff_forall_ne_some]
  intro evidence' hevidence'
  obtain ⟨_, _, hclaims, -⟩ := serveRule_eq_some hevidence
  obtain ⟨_, _, hclaims', -⟩ := serveRule_eq_some hevidence'
  rw [accepting_overlap hclaims hclaims'] at hseparate
  cases hseparate

theorem verifyProviderEvidence_perm {catalog catalog' : ProviderCatalog env}
    (hperm : catalog.rules.Perm catalog'.rules) (caches : JwksCaches) :
    (verifyProviderEvidence env access token key correlation now (some catalog') caches).1 =
      (verifyProviderEvidence env access token key correlation now (some catalog) caches).1 := by
  unfold verifyProviderEvidence
  cases (env.decodeHeader token).bind TokenHeader.kid with
  | none => rfl
  | some kid =>
    rw [tryRules_fst catalog.distinctIds, tryRules_fst catalog'.distinctIds]
    exact (findSome?_eq_of_perm hperm (serveRule_pairwise catalog caches)).symm

theorem verifyProviderEvidence_eq_some {federation : Option (ProviderCatalog env)}
    {evidence : VerifiedProviderEvidence}
    (h : (verifyProviderEvidence env access token key correlation now federation caches).1 =
      some evidence) :
    ∃ catalog, federation = some catalog ∧ ∃ rule ∈ catalog.rules, ∃ keys claims,
      verifyRule env keys token key correlation now rule = .ok claims ∧
        evidence = evidenceOf rule claims := by
  unfold verifyProviderEvidence at h
  cases federation with
  | none => cases h
  | some catalog =>
    cases hkid : (env.decodeHeader token).bind TokenHeader.kid with
    | none =>
      rw [hkid] at h
      cases h
    | some kid =>
      rw [hkid] at h
      rw [tryRules_fst catalog.distinctIds] at h
      obtain ⟨rule, hmem, hserve⟩ := exists_of_findSome?_eq_some h
      obtain ⟨keys, claims, hclaims, heq⟩ := serveRule_eq_some hserve
      exact ⟨catalog, rfl, rule, hmem, keys, claims, hclaims, heq⟩

theorem verifyRule_audience {keys : GenerationJwks} {claims : ProviderClaimEvidence}
    (h : verifyRule env keys token key correlation now rule = .ok claims) :
    ∃ payload, env.payload token = some payload ∧
      payload.strClaim "aud" = some (proofAudience env key) := by
  obtain ⟨_, e, -, -, hverify⟩ | ⟨_, e, -, -, hverify⟩ := verifyRule_ok h
  · obtain ⟨payload, parsed, hdecode, hparse, -, hcheck, -⟩ := verifyGithub_ok hverify
    refine ⟨payload, (decodeToken_ok hdecode).1, ?_⟩
    rw [(GithubClaims.parse_iss hparse).2, (checkGithubClaims_ok hcheck).1.2]
  · obtain ⟨payload, parsed, hdecode, hparse, -, hcheck, -⟩ := verifyForgejo_ok hverify
    refine ⟨payload, (decodeToken_ok hdecode).1, ?_⟩
    rw [(ForgejoClaims.parse_iss hparse).2, (checkForgejoClaims_ok hcheck).1.2]

theorem shareValue_comm (left right : List String) : shareValue left right = shareValue right left := by
  rw [Bool.eq_iff_iff]
  simp only [shareValue, any_eq_true, beq_iff_eq]
  constructor
  · rintro ⟨value, hl, other, hr, rfl⟩
    exact ⟨other, hr, other, hl, rfl⟩
  · rintro ⟨value, hr, other, hl, rfl⟩
    exact ⟨other, hl, other, hr, rfl⟩

theorem rulesOverlap_comm (left right : ProviderRule) :
    rulesOverlap left right = rulesOverlap right left := by
  unfold rulesOverlap
  cases left.provider with
  | githubActions l =>
    cases right.provider with
    | githubActions =>
      simp [githubRulesOverlap, shareValue_comm l.protectedRefs, shareValue_comm l.events,
        shareValue_comm l.runnerEnvironments, BEq.comm (a := l.repositoryId),
        BEq.comm (a := l.repositoryOwnerId), BEq.comm (a := l.jobWorkflowRef),
        BEq.comm (a := l.jobWorkflowSha)]
    | forgejoActions => rfl
  | forgejoActions l =>
    cases right.provider with
    | githubActions => rfl
    | forgejoActions =>
      simp [forgejoRulesOverlap, BEq.comm (a := l.repositoryId), BEq.comm (a := l.repositoryOwnerId),
        BEq.comm (a := l.workflowRef), BEq.comm (a := l.refName), BEq.comm (a := l.refType),
        BEq.comm (a := l.sha), BEq.comm (a := l.runId), BEq.comm (a := l.runAttempt)]

theorem checkRules_perm {rules' : List ProviderRule} {experimental : List ProviderKind}
    (hperm : rules.Perm rules') (h : checkRules env rules experimental = .ok ()) :
    checkRules env rules' experimental = .ok () := by
  obtain ⟨hlength, hvalid, hnodup, hseparated, htrust⟩ := checkRules_ok.mp h
  apply checkRules_ok.mpr
  refine ⟨hperm.length_eq ▸ hlength, ?_, (hperm.map _).nodup_iff.mp hnodup, ?_, ?_⟩
  · intro rule hrule
    exact hvalid rule (hperm.mem_iff.mpr hrule)
  · refine (hperm.pairwise_iff ?_).mp hseparated
    intro left right hoverlap
    rwa [rulesOverlap_comm]
  · intro rule hrule
    exact htrust rule (hperm.mem_iff.mpr hrule)

end

theorem one_rule_accepts {env : FederationEnv} {rules : List ProviderRule}
    {experimental : List ProviderKind} {catalog : ProviderCatalog env}
    (h : withExperimentalProviders env rules experimental = .ok catalog) :
    (∀ (keys : ProviderRule → GenerationJwks) (token : String) (key : ProofKey)
      (correlation : FixedBytes 32) (now : Nat),
      (rules.filter fun rule =>
        (verifyRule env (keys rule) token key correlation now rule).isOk).length ≤ 1) ∧
    (∀ (jwks : GenerationJwks) (token : String) (key : ProofKey) (correlation : FixedBytes 32)
      (now : Nat), ∀ rule ∈ rules, ∀ evidence,
      verifyRule env jwks token key correlation now rule = .ok evidence →
        selectRule catalog evidence = .ok rule) ∧
    ((∀ selection, selectGithub catalog selection ≠ .error .ambiguousRule) ∧
      ∀ selection, selectForgejo catalog selection ≠ .error .ambiguousRule) ∧
    ∀ rules', rules.Perm rules' →
      ∃ catalog', withExperimentalProviders env rules' experimental = .ok catalog' ∧
        ∀ (access : ProviderAccess) (token : String) (key : ProofKey)
          (correlation : FixedBytes 32) (now : Nat) (caches : JwksCaches),
          (verifyProviderEvidence env access token key correlation now (some catalog') caches).1 =
            (verifyProviderEvidence env access token key correlation now (some catalog)
              caches).1 := by
  obtain ⟨hcheck, hrules⟩ : checkRules env rules experimental = .ok () ∧ catalog.rules = rules := by
    unfold withExperimentalProviders at h
    split at h
    · cases h
    · next hcheck =>
      cases h
      exact ⟨hcheck, rfl⟩
  refine ⟨?_, ?_, selection_unambiguous catalog, ?_⟩
  · intro keys token key correlation now
    have hone := catalog.filter_length_le_one (p := fun rule =>
      (verifyRule env (keys rule) token key correlation now rule).isOk) (by
      intro _ _ hl hr
      obtain ⟨evidence, hevidence⟩ := isOk_iff.mp hl
      obtain ⟨_, hevidence'⟩ := isOk_iff.mp hr
      exact accepting_overlap hevidence hevidence')
    rwa [hrules] at hone
  · intro jwks token key correlation now rule hrule evidence hverify
    exact selectRule_verified catalog (hrules ▸ hrule) hverify
  · intro rules' hperm
    obtain ⟨catalog', hcatalog', hrules'⟩ :=
      withExperimentalProviders_ok.mpr (checkRules_perm hperm hcheck)
    refine ⟨catalog', hcatalog', ?_⟩
    intro access token key correlation now caches
    apply verifyProviderEvidence_perm
    rw [hrules, hrules']
    exact hperm

/-! ### A catalog of two rules -/

def httpsUrl (host path : String) : Url :=
  ⟨"https", "", none, host, 443, path, none, none, "https://" ++ host ++ path⟩

def releasePayload : Jwt.Claims :=
  AList.insert "iss" (.str githubIssuer) <| AList.insert "aud" (.str "urn:basil:ci:jkt:jkt") <|
  AList.insert "sub" (.str "repo:openbasil/basil") <|
  AList.insert "repository" (.str "openbasil/basil") <|
  AList.insert "repository_id" (.str "42") <| AList.insert "repository_owner_id" (.str "7") <|
  AList.insert "event_name" (.str "push") <| AList.insert "ref" (.str "refs/heads/main") <|
  AList.insert "job_workflow_ref" (.str "release.yml") <|
  AList.insert "job_workflow_sha" (.str "aa") <|
  AList.insert "runner_environment" (.str "github-hosted") <|
  AList.insert "run_id" (.str "8812") <| AList.insert "run_attempt" (.str "1") <|
  AList.insert "jti" (.str "t1") <| AList.insert "iat" (.num 1000) <|
  AList.insert "exp" (.num 1600) ∅

def ciEnv : FederationEnv where
  parseUrl s :=
    if s = githubIssuer then some (httpsUrl "token.actions.githubusercontent.com" "/")
    else if s = githubIssuer ++ "/jwks" then
      some (httpsUrl "token.actions.githubusercontent.com" "/jwks")
    else none
  githubIssuer_path := by
    intro url hurl
    cases hurl
    rfl
  caBundleOk _ := false
  decodeHeader token := if token = "release-token" then some ⟨.rs256, some "k1"⟩ else none
  payload token := if token = "release-token" then some releasePayload else none
  signatureValid _ n _ := n == "n1"
  sha256 _ := FixedBytes.fill 32 0
  hmacSha256 _ _ := FixedBytes.fill 32 1
  b64UrlNoPad _ := "jkt"

def githubSample (refs : List String) : GithubActionsRule :=
  ⟨githubIssuer, githubIssuer ++ "/jwks", githubIssuer ++ "/jwks", none, proofAudienceBase, 42, 7,
    "release.yml", "aa", refs, ["push"], ["github-hosted"], none, 600, 60⟩

def sampleRule (id : String) (refs : List String) : ProviderRule :=
  ⟨id, "ci.release", "basil", [.artifactSign], ["web.signer"], 600, 60, some 3,
    .githubActions (githubSample refs)⟩

def releaseRule : ProviderRule := sampleRule "release" ["refs/heads/main"]

def tagRule : ProviderRule := sampleRule "tags" ["refs/tags/v1"]

def githubKeys : GenerationJwks := ⟨1, ⟨[("k1", ⟨"k1", "n1", "AQAB"⟩)], by decide⟩⟩

theorem release_token_selects_release :
    ∃ catalog evidence, withExperimentalProviders ciEnv [tagRule, releaseRule] [] = .ok catalog ∧
      verifyRule ciEnv githubKeys "release-token" (.fill 32 9) (.fill 32 2) 1010 releaseRule =
        .ok evidence ∧
      selectRule catalog evidence = .ok releaseRule ∧
      ([tagRule, releaseRule].filter fun rule => (verifyRule ciEnv githubKeys "release-token"
        (.fill 32 9) (.fill 32 2) 1010 rule).isOk).length ≤ 1 := by
  obtain ⟨evidence, hverify⟩ : ∃ evidence, verifyRule ciEnv githubKeys "release-token" (.fill 32 9)
      (.fill 32 2) 1010 releaseRule = .ok evidence := ⟨_, rfl⟩
  obtain ⟨catalog, hcatalog, -⟩ : ∃ catalog,
      withExperimentalProviders ciEnv [tagRule, releaseRule] [] = .ok catalog ∧
        catalog.rules = [tagRule, releaseRule] := withExperimentalProviders_ok.mpr (by decide)
  obtain ⟨hone, hselect, -, -⟩ := one_rule_accepts hcatalog
  exact ⟨catalog, evidence, hcatalog, hverify,
    hselect githubKeys _ _ _ 1010 releaseRule (by simp) evidence hverify,
    hone (fun _ => githubKeys) _ _ _ 1010⟩

end Basil.CiFederation
