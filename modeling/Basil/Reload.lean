import Basil.CiFederation
import Basil.ListenerTransition
import Basil.Loader
import Basil.Provider

/-!
# Validating a reload (`core/reload.rs`, `core/state.rs`)

The manager and its backends stay, so a candidate may differ from the serving generation in
reloadable content only. What reading the files finds is an input.
-/

namespace Basil.Reload

open CiFederation ListenerTransition

/-- `ReloadError`. A listener transition's error is kept as it is instead of its text;
`generationChanged` is the other use of `ListenerTransition`. -/
inductive ReloadError where
  | readInput (path : String)
  | tornSnapshot (path : String)
  | validate (error : Loader.LoadError)
  | configuration (detail : String)
  | listenerConfiguration (detail : String)
  | federation (error : FederationError)
  | listenerTransition (error : ListenerTransitionError)
  | generationChanged
  | listenerTransitionBlocked (impacts : List ListenerImpact)
  | routingShapeChanged (detail : String)
  | nixCacheIdentityChanged (detail : String)
  | noInputs
  | liveRuntimeRequired

/-! ### The routing shape -/

structure BackendShape where
  kind : BackendKind
  addr : String
  engines : List Engine
  capabilities : List Capability
  requires : List Capability
  deriving DecidableEq

structure KeyShape where
  keyClass : KeyClass
  keyType : Option KeyAlgorithm
  backend : String
  engine : Option Engine
  path : String
  publicPath : Option String
  deriving DecidableEq

def backendShape (b : BackendRef) : BackendShape :=
  ⟨b.kind, b.addr, b.engines, b.capabilities, b.requires⟩

def keyShape (k : KeyEntry) : KeyShape :=
  ⟨k.keyClass, k.keyType, k.backend, k.engine, k.path, k.publicPath⟩

def routingShape (catalog : Catalog) : List (String × BackendShape) × List (String × KeyShape) :=
  (catalog.backends.entries.map (Prod.map id backendShape),
    catalog.keys.entries.map (Prod.map id keyShape))

def ensureReloadable (current candidate : Catalog) : Except ReloadError Unit := do
  ensure ((routingShape current).1 = (routingShape candidate).1) (.routingShapeChanged
    "the backend set or a backend's kind/addr/engines/capabilities/requires changed")
  ensure ((routingShape current).2 = (routingShape candidate).2) (.routingShapeChanged
    ("a key was added/removed or a key's class/backend/path/engine/key_type/public_path " ++
      "changed"))

/-! ### Nix cache identities -/

def catalogKey (keyId what : String) : ReloadError :=
  .nixCacheIdentityChanged ("catalog key `" ++ keyId ++ "` " ++ what)

def checkIdentity (keyId : String) (previous next : NixCacheIdentity) : Except ReloadError Unit := do
  ensure (previous.keyName = next.keyName) (catalogKey keyId "changed keyName")
  ensure (previous.backendVersion = next.backendVersion) (catalogKey keyId "changed backendVersion")
  match previous.state, next.state with
  | .pending, .pending | .pending, .enrolled => .ok ()
  | .enrolled, .pending => .error (catalogKey keyId "moved from enrolled back to pending")
  | .enrolled, .enrolled =>
      ensure (previous.publicKey = next.publicKey)
        (catalogKey keyId "replaced its enrolled publicKey")

def checkKey (candidate : Catalog) (current : String × KeyEntry) : Except ReloadError Unit := do
  let next ← orErr (candidate.keys.get? current.1) (catalogKey current.1 "was removed")
  match current.2.nixCache, next.nixCache with
  | none, none => .ok ()
  | none, some _ =>
      .error (catalogKey current.1 "added nixCache metadata; declare the identity at startup")
  | some _, none => .error (catalogKey current.1 "removed nixCache metadata")
  | some previous, some next => checkIdentity current.1 previous next

def preservesCurrentEnrollment (current : Catalog) (keyId : String) (identity : NixCacheIdentity) :
    Bool :=
  match (current.keys.get? keyId).bind KeyEntry.nixCache with
  | none => false
  | some previous => decide (previous.state = .enrolled) && decide (previous = identity)

/-- The second loop: a name enrolled before stays with the key that enrolled it. -/
def checkTombstone (current : Catalog) (tombstones : List String)
    (candidate : String × KeyEntry) : Except ReloadError Unit :=
  match candidate.2.nixCache with
  | none => .ok ()
  | some identity =>
      ensure (identity.keyName ∈ tombstones →
          preservesCurrentEnrollment current candidate.1 identity = true)
        (.nixCacheIdentityChanged ("keyName `" ++ identity.keyName ++
          "` was already enrolled during this process lifetime"))

def ensureNixCacheReloadable (current candidate : Catalog) (tombstones : List String) :
    Except ReloadError Unit := do
  let _ ← collect (checkKey candidate) current.keys.entries
  let _ ← collect (checkTombstone current tombstones) candidate.keys.entries
  return ()

/-! ### What the two checks say -/

variable {current candidate : Catalog} {keyId : String}

theorem ensureReloadable_ok {u : Unit} :
    ensureReloadable current candidate = .ok u ↔
      routingShape current = routingShape candidate := by
  simp only [ensureReloadable, eq_ok, Prod.ext_iff]
  constructor
  · rintro ⟨-, hbackends, hkeys⟩
    exact ⟨hbackends, hkeys⟩
  · rintro ⟨hbackends, hkeys⟩
    exact ⟨(), hbackends, hkeys⟩

structure Continues (previous next : NixCacheIdentity) : Prop where
  keyName_eq : next.keyName = previous.keyName
  backendVersion_eq : next.backendVersion = previous.backendVersion
  enrolled : previous.state = .enrolled → next = previous

theorem checkIdentity_ok {previous next : NixCacheIdentity} :
    checkIdentity keyId previous next = .ok () ↔ Continues previous next := by
  obtain ⟨_, state, _, _⟩ := previous
  obtain ⟨_, state', _, _⟩ := next
  simp only [checkIdentity, eq_ok]
  constructor
  · rintro ⟨-, rfl, -, rfl, hstate⟩
    refine ⟨rfl, rfl, ?_⟩
    intro henrolled
    cases henrolled
    cases state' with
    | pending => cases hstate
    | enrolled =>
      simp only [ensure_eq_ok] at hstate
      rw [hstate]
  · rintro ⟨hname, hversion, henrolled⟩
    refine ⟨(), hname.symm, (), hversion.symm, ?_⟩
    cases state with
    | pending => cases state' <;> rfl
    | enrolled =>
      cases henrolled rfl
      exact ensure_pos rfl _

theorem checkKey_ok {entry : KeyEntry} :
    checkKey candidate (keyId, entry) = .ok () ↔
      ∃ next, candidate.keys.get? keyId = some next ∧
        Option.Rel Continues entry.nixCache next.nixCache := by
  simp only [checkKey, eq_ok]
  refine exists_congr fun next => and_congr_right fun _ => ?_
  cases entry.nixCache with
  | none => cases next.nixCache <;> simp
  | some previous => cases next.nixCache <;> simp [checkIdentity_ok]

theorem preservesCurrentEnrollment_eq_true {identity : NixCacheIdentity} :
    preservesCurrentEnrollment current keyId identity = true ↔
      identity.state = .enrolled ∧
        ∃ entry, current.keys.get? keyId = some entry ∧ entry.nixCache = some identity := by
  simp only [preservesCurrentEnrollment, ← Option.bind_eq_some_iff]
  cases hidentity : (current.keys.get? keyId).bind KeyEntry.nixCache with
  | none => simp
  | some previous =>
    simp only [Bool.and_eq_true, decide_eq_true_eq, Option.some.injEq]
    constructor
    · rintro ⟨hstate, rfl⟩
      exact ⟨hstate, rfl⟩
    · rintro ⟨hstate, rfl⟩
      exact ⟨hstate, rfl⟩

structure IdentitiesKept (current candidate : Catalog) (tombstones : List String) : Prop where
  continues : ∀ keyId entry, current.keys.get? keyId = some entry →
    ∃ next, candidate.keys.get? keyId = some next ∧
      Option.Rel Continues entry.nixCache next.nixCache
  tombstoned : ∀ keyId next identity, candidate.keys.get? keyId = some next →
    next.nixCache = some identity → identity.keyName ∈ tombstones →
    identity.state = .enrolled ∧
      ∃ entry, current.keys.get? keyId = some entry ∧ entry.nixCache = some identity

theorem ensureNixCacheReloadable_ok {tombstones : List String} {u : Unit} :
    ensureNixCacheReloadable current candidate tombstones = .ok u ↔
      IdentitiesKept current candidate tombstones := by
  have hkeys : (∃ units, collect (checkKey candidate) current.keys.entries = .ok units) ↔
      ∀ keyId entry, current.keys.get? keyId = some entry →
        checkKey candidate (keyId, entry) = .ok () := by
    simp [collect_unit, OrdMap.get?_eq_some_iff]
  have htombstones :
      (∃ units, collect (checkTombstone current tombstones) candidate.keys.entries = .ok units) ↔
      ∀ keyId next, candidate.keys.get? keyId = some next →
        checkTombstone current tombstones (keyId, next) = .ok () := by
    simp [collect_unit, OrdMap.get?_eq_some_iff]
  have hchain : ensureNixCacheReloadable current candidate tombstones = .ok () ↔
      (∃ units, collect (checkKey candidate) current.keys.entries = .ok units) ∧
      ∃ units, collect (checkTombstone current tombstones) candidate.keys.entries = .ok units := by
    simp [ensureNixCacheReloadable]
  rw [hchain, hkeys, htombstones]
  constructor
  · rintro ⟨hcontinues, htombstoned⟩
    refine ⟨fun keyId entry hentry => checkKey_ok.mp (hcontinues keyId entry hentry), ?_⟩
    intro keyId next identity hnext hidentity hname
    have hcheck := htombstoned keyId next hnext
    simp only [checkTombstone, hidentity, ensure_eq_ok] at hcheck
    exact preservesCurrentEnrollment_eq_true.mp (hcheck hname)
  · rintro ⟨hcontinues, htombstoned⟩
    refine ⟨fun keyId entry hentry => checkKey_ok.mpr (hcontinues keyId entry hentry), ?_⟩
    intro keyId next hnext
    cases hidentity : next.nixCache with
    | none => simp [checkTombstone, hidentity]
    | some identity =>
      simp only [checkTombstone, hidentity, ensure_eq_ok, preservesCurrentEnrollment_eq_true]
      exact htombstoned keyId next identity hnext hidentity

/-! ### Bundle publishers -/

def publisher (e : String × KeyEntry) : Option (String × String × String) := do
  let svidKind ← e.2.labels.get "svid_kind"
  if svidKind = "jwt" ∨ svidKind = "x509" then
    let trustDomain ← e.2.labels.get "trust_domain"
    return (e.1, svidKind, trustDomain)
  else none

def spiffeBundlePublishers (catalog : Catalog) : List (String × String × String) :=
  catalog.keys.entries.filterMap publisher

def bundleChangedTrustDomains (current candidate : Catalog) : List String :=
  let before := spiffeBundlePublishers current
  let after := spiffeBundlePublishers candidate
  if before = after then []
  else (((before ++ after).map fun p => p.2.2).dedup).insertionSort (· ≤ ·)

/-! ### The candidate -/

structure ServingGeneration (env : FederationEnv) extends Generation where
  listeners : ListenerConfigSet
  federation : Option (ProviderCatalog env)

/-- What re-reading the configuration yields; the loader has accepted the catalog. -/
structure Corpus (env : FederationEnv) where
  catalog : Catalog
  accepted : Loader.Accepts catalog
  policy : ResolvedPolicy
  config : PolicyConfig
  listeners : ListenerConfigSet
  federation : Option (ProviderCatalog env)

structure Reading (env : FederationEnv) where
  corpus : Except ReloadError (Corpus env)
  unchanged : Except ReloadError Unit

structure ReloadOutcome where
  previousGeneration : Nat
  newGeneration : Nat
  keyCount : Nat
  grantCount : Nat
  listenerImpacts : List ListenerImpact

structure ValidatedCandidate (env : FederationEnv) where
  corpus : Corpus env
  outcome : ReloadOutcome
  bundleChanged : List String

variable {env : FederationEnv}

def grantCount (policy : ResolvedPolicy) : Nat := (policy.rules.map fun r => r.grants.length).sum

def candidateOf (current : ServingGeneration env) (registry : Connection.RegistryState)
    (corpus : Corpus env) : ValidatedCandidate env where
  corpus := corpus
  outcome := {
    previousGeneration := current.id
    newGeneration := satAddU64 current.id 1
    keyCount := corpus.catalog.keys.entries.length
    grantCount := grantCount corpus.policy
    listenerImpacts := assessTransition current.listeners corpus.listeners registry }
  bundleChanged := bundleChangedTrustDomains current.catalog corpus.catalog

def validateCandidate (hasInputs : Bool) (current : ServingGeneration env)
    (tombstones : List String) (registry : Connection.RegistryState) (reading : Reading env) :
    Except ReloadError (ValidatedCandidate env) := do
  ensure (hasInputs = true) .noInputs
  let corpus ← reading.corpus
  ensureReloadable current.catalog corpus.catalog
  ensureNixCacheReloadable current.catalog corpus.catalog tombstones
  (requireZeroActive (assessTransition current.listeners corpus.listeners registry)).mapError
    .listenerTransitionBlocked
  reading.unchanged
  return candidateOf current registry corpus

structure Validated (hasInputs : Bool) (current : ServingGeneration env) (tombstones : List String)
    (registry : Connection.RegistryState) (reading : Reading env) (corpus : Corpus env) : Prop where
  inputs : hasInputs = true
  read : reading.corpus = .ok corpus
  shape : routingShape current.catalog = routingShape corpus.catalog
  identities : IdentitiesKept current.catalog corpus.catalog tombstones
  drained : requireZeroActive (assessTransition current.listeners corpus.listeners registry) = .ok ()
  unchanged : reading.unchanged = .ok ()

theorem validateCandidate_ok {hasInputs : Bool} {current : ServingGeneration env}
    {tombstones : List String} {registry : Connection.RegistryState} {reading : Reading env}
    {candidate : ValidatedCandidate env} :
    validateCandidate hasInputs current tombstones registry reading = .ok candidate ↔
      ∃ corpus, Validated hasInputs current tombstones registry reading corpus ∧
        candidate = candidateOf current registry corpus := by
  simp only [validateCandidate, eq_ok, ensureReloadable_ok, ensureNixCacheReloadable_ok]
  constructor
  · rintro ⟨_, hinputs, corpus, hread, _, hshape, _, hidentities, _, hdrained, _, hunchanged, rfl⟩
    exact ⟨corpus, ⟨hinputs, hread, hshape, hidentities, hdrained, hunchanged⟩, rfl⟩
  · rintro ⟨corpus, h, rfl⟩
    exact ⟨(), h.inputs, corpus, h.read, (), h.shape, (), h.identities, (), h.drained, (),
      h.unchanged, rfl⟩

/-! ### Building the generation -/

def needsProviderDispatch (key : KeyEntry) : Bool :=
  let metadata := ProviderMetadata.fromKey key
  decide (key.keyType = some .mlDsa44 ∨ key.keyType = some .mlDsa65 ∨ key.keyType = some .mlDsa87 ∨
    metadata.provider = some .localSoftware ∨ metadata.custody = some .softwareEncrypted ∨
    metadata.policy = .localSoftware)

def validateArtifactTargets (federation : ProviderCatalog env) (catalog : Catalog) :
    Except FederationError Unit :=
  ensure (∀ target ∈ federation.rules.flatMap ProviderRule.artifactSignKeyIds,
      ((catalog.keys.get? target).any needsProviderDispatch) = false)
    .unsupportedArtifactSignTarget

def generationOf (candidate : ValidatedCandidate env) : ServingGeneration env where
  id := candidate.outcome.newGeneration
  catalog := candidate.corpus.catalog
  policy := candidate.corpus.policy
  config := candidate.corpus.config
  listeners := candidate.corpus.listeners
  federation := candidate.corpus.federation

/-- `clients` is what building the provider clients and caches comes to. -/
def checkFederation (corpus : Corpus env) (clients : Except FederationError Unit) :
    Except FederationError Unit :=
  match corpus.federation with
  | none => .ok ()
  | some federation => do
      validateArtifactTargets federation corpus.catalog
      clients

def buildGeneration (candidate : ValidatedCandidate env) (clients : Except FederationError Unit) :
    Except FederationError (ServingGeneration env) := do
  checkFederation candidate.corpus clients
  return generationOf candidate

def enrolledNames (catalog : Catalog) : List String :=
  catalog.keys.entries.filterMap fun e =>
    e.2.nixCache.bind fun identity => if identity.state = .enrolled then some identity.keyName else none

end Basil.Reload
