import Basil.ReloadRun
import Mathlib.Data.List.Chain

/-!
# Nix cache identities across reloads

Every swap is validated against the generation it replaces, so the comparisons add up to the whole
history.
-/

namespace Basil.Reload

open CiFederation ListenerTransition List Trace

variable {env : FederationEnv}

def identity? (catalog : Catalog) (keyId : String) : Option NixCacheIdentity :=
  (catalog.keys.get? keyId).bind KeyEntry.nixCache

theorem identity?_eq_some {catalog : Catalog} {keyId : String} {identity : NixCacheIdentity} :
    identity? catalog keyId = some identity ↔
      ∃ entry, catalog.keys.get? keyId = some entry ∧ entry.nixCache = some identity :=
  Option.bind_eq_some_iff

def Follows (earlier later : Catalog) : Prop :=
  ∀ keyId identity, identity? earlier keyId = some identity →
    ∃ next, identity? later keyId = some next ∧ Continues identity next

theorem Continues.trans {i j k : NixCacheIdentity} (hij : Continues i j) (hjk : Continues j k) :
    Continues i k where
  keyName_eq := hjk.keyName_eq.trans hij.keyName_eq
  backendVersion_eq := hjk.backendVersion_eq.trans hij.backendVersion_eq
  enrolled := by
    intro henrolled
    have hj := hij.enrolled henrolled
    rw [hj] at hjk
    exact hjk.enrolled henrolled

instance : IsTrans Catalog Follows where
  trans c₁ c₂ c₃ h₁₂ h₂₃ := by
    intro keyId identity hidentity
    obtain ⟨mid, hmid, hcontinues⟩ := h₁₂ keyId identity hidentity
    obtain ⟨next, hnext, hcontinues'⟩ := h₂₃ keyId mid hmid
    exact ⟨next, hnext, hcontinues.trans hcontinues'⟩

theorem IdentitiesKept.follows {current candidate : Catalog} {tombstones : List String}
    (h : IdentitiesKept current candidate tombstones) : Follows current candidate := by
  intro keyId identity hidentity
  obtain ⟨entry, hentry, hsome⟩ := identity?_eq_some.mp hidentity
  obtain ⟨next, hnext, hrel⟩ := h.continues keyId entry hentry
  rw [hsome] at hrel
  cases hnix : next.nixCache with
  | none =>
    rw [hnix] at hrel
    cases hrel
  | some identity' =>
    rw [hnix] at hrel
    cases hrel with
    | some hcontinues => exact ⟨identity', identity?_eq_some.mpr ⟨next, hnext, hnix⟩, hcontinues⟩

theorem mem_enrolledNames {catalog : Catalog} {name : String} :
    name ∈ enrolledNames catalog ↔
      ∃ keyId identity, identity? catalog keyId = some identity ∧ identity.state = .enrolled ∧
        identity.keyName = name := by
  simp only [enrolledNames, mem_filterMap, Option.bind_eq_some_iff, Option.ite_none_right_eq_some,
    Option.some.injEq, Prod.exists, identity?_eq_some, OrdMap.get?_eq_some_iff]
  constructor
  · rintro ⟨keyId, entry, hentry, identity, hidentity, hstate, hname⟩
    exact ⟨keyId, identity, ⟨entry, hentry, hidentity⟩, hstate, hname⟩
  · rintro ⟨keyId, identity, ⟨entry, hentry, hidentity⟩, hstate, hname⟩
    exact ⟨keyId, entry, hentry, identity, hidentity, hstate, hname⟩

structure IdentitiesImmutable (earlier later : Catalog) : Prop where
  fixed : ∀ keyId identity next, identity? earlier keyId = some identity →
    identity? later keyId = some next →
    next.keyName = identity.keyName ∧ next.backendVersion = identity.backendVersion
  enrolled : ∀ keyId identity, identity? earlier keyId = some identity →
    identity.state = .enrolled → identity? later keyId = some identity
  unshared : ∀ keyId other identity next, identity? earlier keyId = some identity →
    identity.state = .enrolled → identity? later other = some next →
    next.keyName = identity.keyName → other = keyId

theorem Follows.immutable {earlier later : Catalog} (h : Follows earlier later)
    (haccepted : Loader.Accepts later) : IdentitiesImmutable earlier later := by
  have henrolled : ∀ keyId identity, identity? earlier keyId = some identity →
      identity.state = .enrolled → identity? later keyId = some identity := by
    intro keyId identity hidentity hstate
    obtain ⟨next, hnext, hcontinues⟩ := h keyId identity hidentity
    rw [hcontinues.enrolled hstate] at hnext
    exact hnext
  refine ⟨?_, henrolled, ?_⟩
  · intro keyId identity next hidentity hnext
    obtain ⟨_, hnext', hcontinues⟩ := h keyId identity hidentity
    rw [hnext] at hnext'
    cases hnext'
    exact ⟨hcontinues.keyName_eq, hcontinues.backendVersion_eq⟩
  · -- the enrolled identity is still there, and the loader lets no other key have its name
    intro keyId other identity next hidentity hstate hnext hname
    obtain ⟨_, hentry, hsome⟩ := identity?_eq_some.mp (henrolled keyId identity hidentity hstate)
    obtain ⟨_, hentry', hsome'⟩ := identity?_eq_some.mp hnext
    exact haccepted.nixKeyName_unique hentry' hentry hsome' hsome hname

namespace Broker

def start (generation : ServingGeneration env) (hasInputs live : Bool)
    (listeners : ListenerRuntime) : Broker env where
  generation := generation
  running := generation.listeners.get?
  tombstones := enrolledNames generation.catalog
  bundleEvents := []
  hasInputs := hasInputs
  live := live
  listeners := listeners
  reloadLock := none
  liveReloadLock := none
  attempts := ∅
  nextAttempt := 0

def served (startup : ServingGeneration env) (events : List (Action env × Reply env)) : List Catalog :=
  startup.catalog :: (swaps events).map fun s => s.next.catalog

structure Recorded (startup : ServingGeneration env) (events : List (Action env × Reply env))
    (b : Broker env) : Prop where
  serialized : Serialized b
  last : (served startup events).getLast? = some b.generation.catalog
  accepted : ∀ catalog ∈ served startup events, Loader.Accepts catalog
  chain : (served startup events).IsChain Follows
  tombstones : b.tombstones = (served startup events).flatMap enrolledNames

theorem recorded_step {startup : ServingGeneration env} {events : List (Action env × Reply env)}
    {b : Broker env} (h : Recorded startup events b) (action : Action env) :
    Recorded startup (events ++ [(action, (b.step action).2)]) (b.step action).1 := by
  have hserialized := serialized_effect h.serialized (step_effect action)
  rcases h.serialized.step_serving action with ⟨hnone, hsame⟩ | ⟨_, _, hfresh, hswap, hserving⟩
  · have hserved : served startup (events ++ [(action, (b.step action).2)]) = served startup events := by
      simp [served, swaps_concat, hnone]
    exact ⟨hserialized, by rw [hserved, hsame.generation_eq, h.last], hserved ▸ h.accepted,
      hserved ▸ h.chain, by rw [hserved, hsame.tombstones_eq, h.tombstones]⟩
  · obtain ⟨_, corpus, rfl, -, hidentities⟩ := hfresh
    have hserved : served startup (events ++ [(action, (b.step action).2)]) =
        served startup events ++ [corpus.catalog] := by
      simp only [served, swaps_concat, hswap, Option.toList_some, map_append, map_cons,
        map_nil, cons_append]
      rfl
    refine ⟨hserialized, ?_, ?_, ?_, ?_⟩
    · rw [hserved, hserving.generation_eq]
      exact getLast?_concat
    · rw [hserved]
      intro catalog hmem
      rcases mem_append.mp hmem with hmem | hmem
      · exact h.accepted catalog hmem
      · rw [mem_singleton.mp hmem]
        exact corpus.accepted
    · rw [hserved]
      refine h.chain.append (.singleton _) ?_
      intro earlier hearlier later hlater
      rw [h.last] at hearlier
      cases hearlier
      cases hlater
      exact hidentities.follows
    · rw [hserved, hserving.tombstones_eq, flatMap_append, ← h.tombstones]
      simp [install, candidateOf]

theorem recorded_run (startup : ServingGeneration env) (haccepted : Loader.Accepts startup.catalog)
    (hasInputs live : Bool) (listeners : ListenerRuntime) (actions : List (Action env)) :
    Recorded startup (events step (start startup hasInputs live listeners) actions)
      (final step (start startup hasInputs live listeners) actions) := by
  refine history (Recorded startup) (fun _ _ action h => recorded_step h action) ?_ actions
  refine ⟨?_, rfl, ?_, .singleton _, by simp [served, swaps, start]⟩
  · intro id stage hlookup
    cases hlookup
  · intro catalog hmem
    rw [mem_singleton.mp hmem]
    exact haccepted

theorem nix_identities_immutable (startup : ServingGeneration env)
    (haccepted : Loader.Accepts startup.catalog) (hasInputs live : Bool)
    (listeners : ListenerRuntime) (actions : List (Action env)) :
    let b := start startup hasInputs live listeners
    let catalogs := served startup (events step b actions)
    catalogs.Pairwise IdentitiesImmutable ∧
      ∀ name, name ∈ (final step b actions).tombstones ↔
        ∃ catalog ∈ catalogs, ∃ keyId identity, identity? catalog keyId = some identity ∧
          identity.state = .enrolled ∧ identity.keyName = name := by
  have hrecorded := recorded_run startup haccepted hasInputs live listeners actions
  constructor
  · refine (isChain_iff_pairwise.mp hrecorded.chain).imp_of_mem ?_
    intro earlier later _ hlater hfollows
    exact hfollows.immutable (hrecorded.accepted later hlater)
  · intro name
    rw [hrecorded.tombstones, mem_flatMap]
    simp only [mem_enrolledNames]

end Broker

/-! ### A cache key that is enrolled by a reload -/

def cacheIdentity (state : NixCacheState) (publicKey : Option (FixedBytes 32)) : NixCacheIdentity :=
  ⟨"cache.example.org-1", state, 1, publicKey⟩

def cacheKey (identity : NixCacheIdentity) : KeyEntry :=
  { keyClass := .asymmetric, keyType := some .ed25519, backend := "bao", engine := some .transit
    path := "cache", publicPath := none, writable := true, missing := .error
    nixCache := some identity, generate := none, sealingPin := none, labels := ⟨[]⟩
    description := "cache" }

def cacheCatalog (identity : NixCacheIdentity) : Catalog where
  backends := ⟨[("bao", ⟨.vault, "http://127.0.0.1:8200", [], [], [], []⟩)], by decide⟩
  keys := ⟨[("nix.cache", cacheKey identity)], List.pairwise_singleton _ _⟩

def pendingCatalog : Catalog := cacheCatalog (cacheIdentity .pending none)

def enrolledCatalog : Catalog := cacheCatalog (cacheIdentity .enrolled (some (.fill 32 7)))

def pendingStartup : ServingGeneration ciEnv :=
  ⟨⟨1, pendingCatalog, emptyPolicy, emptyConfig⟩, hostOnly, none⟩

theorem pendingCatalog_accepted : Loader.Accepts pendingCatalog := ⟨_, rfl⟩

def cacheReading (catalog : Catalog) (haccepted : Loader.Accepts catalog) : Reading ciEnv :=
  ⟨.ok ⟨catalog, haccepted, emptyPolicy, emptyConfig, hostOnly, none⟩, .ok ()⟩

def cacheBroker : Broker ciEnv := .start pendingStartup true false (.start .compiled .empty)

def enrollment : List (Action ciEnv) :=
  cacheBroker.immediate (cacheReading enrolledCatalog ⟨_, rfl⟩) (.ok ()) true ++
    [.trigger .reloadGeneration, .acquire 1,
      .validate 1 (cacheReading pendingCatalog pendingCatalog_accepted)]

theorem enrollment_immutable :
    let b := final Broker.step cacheBroker enrollment
    b.generation.id = 2 ∧ identity? b.generation.catalog "nix.cache" =
        some (cacheIdentity .enrolled (some (.fill 32 7))) ∧
      "cache.example.org-1" ∈ b.tombstones := by
  have himmutable := Broker.nix_identities_immutable pendingStartup pendingCatalog_accepted true false
    (.start .compiled .empty) enrollment
  have hserved : enrolledCatalog ∈
      Broker.served pendingStartup (events Broker.step cacheBroker enrollment) :=
    mem_cons_of_mem _ (mem_singleton.mpr rfl)
  refine ⟨rfl, rfl, (himmutable.2 "cache.example.org-1").mpr ?_⟩
  exact ⟨enrolledCatalog, hserved, "nix.cache", _, rfl, rfl, rfl⟩

end Basil.Reload
