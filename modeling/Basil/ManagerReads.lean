import Basil.Invocation
import Basil.NatsMinting
import Basil.NixCache
import Basil.Pki
import Basil.Secrets
import Basil.Unseal

/-!
# What the manager reads of its catalog

Each operation resolves the key and goes on with the routed entry, so its congruence is one step.
-/

namespace Basil

open Option hiding forM_eq_forM

open Routed List

def KeyEntry.immutableIdentity (entry : KeyEntry) : Option (String × Nat) :=
  entry.nixCache.map fun identity => (identity.keyName, identity.backendVersion)

namespace Routed

def Mints (routed : Routed) (keyType : KeyType) : Prop :=
  routed.backendDeclaresProvides = false ∨
    KeyAlgorithm.fromWireKeyType keyType ∈ routed.backendRef.mintKeyTypes

structure SameRoute (r r' : Routed) : Prop where
  keyClass : r'.entry.keyClass = r.entry.keyClass
  keyType : r'.entry.keyType = r.entry.keyType
  backend : r'.entry.backend = r.entry.backend
  path : r'.entry.path = r.entry.path
  publicPath : r'.entry.publicPath = r.entry.publicPath
  engine : r'.engine = r.engine
  kind : r'.backendRef.kind = r.backendRef.kind

structure SameReads (keyId : String) (r r' : Routed) : Prop where
  provider : ProviderMetadata.fromKey r'.entry = ProviderMetadata.fromKey r.entry
  providerVersion : r'.entry.labels.get "crypto_provider_version" =
    r.entry.labels.get "crypto_provider_version"
  storageKey : r'.storageKey = r.storageKey
  natsType : r'.entry.labels.natsType = r.entry.labels.natsType
  unsealContext : ∀ aad, pinnedContext keyId r'.entry.sealingPin aad =
    pinnedContext keyId r.entry.sealingPin aad
  mints : r.entry.keyClass = .asymmetric → ∀ keyType, r'.Mints keyType ↔ r.Mints keyType

structure Agree (keyId : String) (r r' : Routed) : Prop extends SameRoute r r',
    SameReads keyId r r' where
  identity : r'.entry.immutableIdentity = r.entry.immutableIdentity
  recipe : r'.entry.generate = r.entry.generate

end Routed

structure SameListing (e e' : String × KeyEntry) : Prop where
  name : e'.1 = e.1
  keyClass : e'.2.keyClass = e.2.keyClass
  keyType : e'.2.keyType = e.2.keyType
  recipe : e'.2.generate = e.2.generate

structure Manager.Alike {σ : Type} (m m' : Manager σ) : Prop where
  prims : m'.prims = m.prims
  backendOf : m'.backendOf = m.backendOf
  resolve : ∀ keyId, (∃ e, m.resolve keyId = .error e ∧ m'.resolve keyId = .error e) ∨
    ∃ r r', m.resolve keyId = .ok r ∧ m'.resolve keyId = .ok r' ∧ Agree keyId r r'
  entries : List.Forall₂ SameListing m.catalog.keys.entries m'.catalog.keys.entries

/-! ### Checks on agreeing routes -/

namespace Routed

variable {keyId : String} {r r' : Routed}

theorem requireMintIfAsymmetric_congr (h : Agree keyId r r') (op : String) (keyType : KeyType) :
    r'.requireMintIfAsymmetric op keyType = r.requireMintIfAsymmetric op keyType := by
  rw [requireMintIfAsymmetric, requireMintIfAsymmetric, h.keyClass]
  by_cases hclass : r.entry.keyClass = .asymmetric
  · rw [if_pos hclass, if_pos hclass, requireMintKeyType, requireMintKeyType, h.backend]
    have hmints := h.mints hclass keyType
    unfold Mints at hmints
    exact ensure_congr hmints _
  · rw [if_neg hclass, if_neg hclass]

theorem requireMlDsa_congr (h : Agree keyId r r') (name : String) :
    r'.requireMlDsa name = r.requireMlDsa name := by
  rw [requireMlDsa, requireMlDsa, h.keyType, h.keyClass]

theorem requireRoutedIdentity_congr (h : Agree keyId r r') (name : String)
    (active : NixCacheIdentity) :
    requireRoutedIdentity name active r' = requireRoutedIdentity name active r := by
  have hidentity := h.identity
  simp only [KeyEntry.immutableIdentity] at hidentity
  cases hr : r.entry.nixCache with
  | none =>
    rw [hr, map_none, map_eq_none_iff] at hidentity
    rw [requireRoutedIdentity, requireRoutedIdentity, hr, hidentity]
  | some identity =>
    rw [hr, map_some, map_eq_some_iff] at hidentity
    obtain ⟨_, hr', heq⟩ := hidentity
    simp only [Prod.mk.injEq] at heq
    simp only [requireRoutedIdentity, hr, hr', orErr, ok_bind, heq.1, heq.2]

theorem nixCache_none_congr (h : Agree keyId r r') :
    r'.entry.nixCache = none ↔ r.entry.nixCache = none := by
  have hidentity := congrArg Option.isSome h.identity
  simp only [KeyEntry.immutableIdentity, isSome_map] at hidentity
  simp only [← not_isSome_iff_eq_none, hidentity]

theorem validateNixCacheRoute_congr (h : Agree keyId r r') (name : String) (version : Nat) :
    validateNixCacheRoute name r' version = validateNixCacheRoute name r version := by
  simp only [validateNixCacheRoute, h.kind, h.keyClass, h.engine, h.keyType, h.path]

end Routed

/-! ### Operations of managers that are alike -/

namespace Manager.Alike

variable {σ α : Type} {m m' : Manager σ} (h : Alike m m')

include h

theorem route_bind (keyId : String) {f f' : Routed → Proc σ ManagerError α}
    (hf : ∀ r r', Agree keyId r r' → f' r' = f r) :
    (m'.route keyId >>= f') = (m.route keyId >>= f) := by
  rcases h.resolve keyId with ⟨_, hm, hm'⟩ | ⟨r, r', hm, hm', hagree⟩
  · rw [route, route, hm, hm']
    rfl
  · rw [route, route, hm, hm']
    exact hf r r' hagree

variable {keyId : String} {r r' : Routed}

theorem backend_congr (hr : Agree keyId r r') : m'.backend r' = m.backend r := by
  rw [backend, backend, h.backendOf, hr.backend]

theorem reads (hr : Agree keyId r r') :
    (r'.entry.keyClass = r.entry.keyClass ∧ r'.entry.keyType = r.entry.keyType) ∧
      (r'.entry.path = r.entry.path ∧ r'.entry.publicPath = r.entry.publicPath) ∧
      (r'.engine = r.engine ∧ r'.storageKey = r.storageKey) ∧
      m'.prims = m.prims ∧ m'.backend r' = m.backend r :=
  ⟨⟨hr.keyClass, hr.keyType⟩, ⟨hr.path, hr.publicPath⟩, ⟨hr.engine, hr.storageKey⟩, h.prims,
    h.backend_congr hr⟩

theorem materializeSigningSeed_congr : m'.materializeSigningSeed = m.materializeSigningSeed := by
  funext keyId op
  apply h.route_bind
  intro r r' hr
  simp only [h.reads hr]

theorem readPublicHalf_congr : m'.readPublicHalf = m.readPublicHalf := by
  funext keyId op allowed
  apply h.route_bind
  intro r r' hr
  simp only [h.reads hr]

theorem dispatch_congr (hr : Agree keyId r r') (native : Option NativeAlgorithm)
    (gate : Bool) (op algorithm : String) (run : CryptoProviderId → Proc σ ProviderError α) :
    m'.dispatch r' native gate op algorithm run = m.dispatch r native gate op algorithm run := by
  simp only [dispatch, selectProviderFor, hr.provider, h.backend_congr hr]

theorem materializeSealingPrivate_congr : m'.materializeSealingPrivate = m.materializeSealingPrivate := by
  funext keyId op
  apply h.route_bind
  intro r r' hr
  simp only [h.reads hr]

theorem tryExistingValue_congr : m'.tryExistingValue = m.tryExistingValue := by
  funext keyId
  apply h.route_bind
  intro r r' hr
  simp only [h.reads hr]

theorem recipes_eq : m'.catalog.keys.entries.map (Prod.map id KeyEntry.generate) =
    m.catalog.keys.entries.map (Prod.map id KeyEntry.generate) := by
  rw [← forall₂_eq_eq_eq, forall₂_map_left_iff, forall₂_map_right_iff]
  exact h.entries.flip.imp fun e e' he => Prod.ext he.name he.recipe

theorem tlsPairKeyForCert_congr : m'.tlsPairKeyForCert = m.tlsPairKeyForCert := by
  funext certKey
  have hfind : ∀ m : Manager σ, m.tlsPairKeyForCert certKey =
      (m.catalog.keys.entries.map (Prod.map id KeyEntry.generate)).findSome? fun e =>
        if e.2 = some (.selfSignedTlsPairOf certKey) then some e.1 else none := by
    intro m
    rw [findSome?_map]
    rfl
  rw [hfind, hfind, h.recipes_eq]

theorem tlsCertRecipe_congr : m'.tlsCertRecipe = m.tlsCertRecipe := by
  funext certKey
  have hget := OrdMap.map_get?_eq h.recipes_eq certKey
  cases hm : m.catalog.keys.get? certKey with
  | none =>
    rw [hm, map_none, map_eq_none_iff] at hget
    rw [tlsCertRecipe, tlsCertRecipe, hm, hget]
  | some entry =>
    rw [hm, map_some, map_eq_some_iff] at hget
    obtain ⟨_, hm', hrecipe⟩ := hget
    simp only [tlsCertRecipe, hm, hm', orErr, ok_bind, hrecipe]

theorem generatedWritesForKey_congr : m'.generatedWritesForKey = m.generatedWritesForKey := by
  funext recipes keyId spec
  cases spec <;> simp only [generatedWritesForKey, generateValue, h.prims,
    h.tlsPairKeyForCert_congr, h.tlsCertRecipe_congr, h.tryExistingValue_congr]

theorem putWrites_congr : m'.putWrites = m.putWrites := by
  funext keyId writes rotated
  induction writes generalizing rotated with
  | nil => rfl
  | cons write writes ih =>
    apply h.route_bind
    intro r r' hr
    simp only [ih, h.reads hr]

theorem sweepRetention_congr : m'.sweepRetention = m.sweepRetention := by
  funext keyId retainVersions
  apply h.route_bind
  intro r r' hr
  simp only [h.reads hr]

theorem filter_entries {p : String × KeyEntry → Bool} (hp : ∀ e e', SameListing e e' → p e' = p e) :
    List.Forall₂ SameListing (m.catalog.keys.entries.filter p)
      (m'.catalog.keys.entries.filter p) := by
  apply rel_filter _ h.entries
  intro e e' he
  exact Eq.to_iff (congrArg (· = true) (hp e e' he).symm)

theorem sweepAllRetention_congr : m'.sweepAllRetention = m.sweepAllRetention := by
  funext retainVersions
  have hsweep : ∀ {l l'}, List.Forall₂ SameListing l l' →
      (l'.forM fun e => m'.sweepRetention e.1 retainVersions) =
        l.forM fun e => m.sweepRetention e.1 retainVersions := by
    intro l l' hl
    induction hl with
    | nil => rfl
    | cons he _ ih =>
      simp only [forM_eq_forM, forM_cons] at ih ⊢
      rw [ih, he.name, h.sweepRetention_congr]
  rw [sweepAllRetention, sweepAllRetention, hsweep (h.filter_entries _)]
  intro e e' he
  rw [he.keyClass]

/-! ### Listing, cache keys and certificates -/

theorem listEntry_congr {name : String} {entry entry' : KeyEntry}
    (hclass : entry'.keyClass = entry.keyClass) (htype : entry'.keyType = entry.keyType) :
    m'.listEntry name entry' = m.listEntry name entry := by
  have hkind : keyKind entry' = keyKind entry := by rw [keyKind, keyKind, hclass]
  have hwire : entry'.wireKeyType = entry.wireKeyType := by
    rw [KeyEntry.wireKeyType, KeyEntry.wireKeyType, htype]
  rcases h.resolve name with ⟨_, hm, hm'⟩ | ⟨_, _, hm, hm', hr⟩
  · simp only [listEntry, hm, hm', hkind, hwire]
  · simp only [listEntry, hm, hm', hkind, hwire, hr.path, h.backend_congr hr]

theorem list_congr : m'.list = m.list := by
  funext lead visible
  have hmap : ∀ {l l'}, List.Forall₂ SameListing l l' →
      (l'.mapM fun e => m'.listEntry e.1 e.2) = l.mapM fun e => m.listEntry e.1 e.2 := by
    intro l l' hl
    induction hl with
    | nil => rfl
    | cons he _ ih =>
      rw [mapM_cons, mapM_cons, ih, he.name, h.listEntry_congr he.keyClass he.keyType]
  rw [list, list, hmap (h.filter_entries _)]
  intro e e' he
  rw [he.name]

variable (nixCacheOf : String → NixCacheBackend σ) (pkiOf : String → PkiBackend σ)

theorem resolveEnrolled_bind (keyId : String) (active : NixCacheIdentity)
    {f f' : Routed → Proc σ ManagerError α}
    (hf : ∀ r r', Agree keyId r r' → f' r' = f r) :
    (Proc.check (m'.resolveEnrolledNixCacheKey keyId active) >>= f') =
      (Proc.check (m.resolveEnrolledNixCacheKey keyId active) >>= f) := by
  by_cases henrolled : active.state = .enrolled ∧ active.publicKey.isSome = true
  · rcases h.resolve keyId with ⟨e, hm, hm'⟩ | ⟨r, r', hm, hm', hr⟩
    · simp only [resolveEnrolledNixCacheKey, ensure_pos henrolled, hm, hm', ok_bind]
      rfl
    · simp only [resolveEnrolledNixCacheKey, ensure_pos henrolled, hm, hm', ok_bind, mapError_ok,
        requireRoutedIdentity_congr hr, validateNixCacheRoute_congr hr]
      cases requireRoutedIdentity keyId active r with
      | error e => rfl
      | ok u =>
        cases validateNixCacheRoute keyId r active.backendVersion with
        | error e => rfl
        | ok u => exact hf r r' hr
  · simp only [resolveEnrolledNixCacheKey, ensure_neg henrolled]
    rfl

omit h in
theorem checkedPosture_congr (hr : Agree keyId r r') (name : String)
    (active : NixCacheIdentity) :
    checkedPosture nixCacheOf name active r' = checkedPosture nixCacheOf name active r := by
  simp only [checkedPosture, hr.backend, hr.path]

theorem issueUnder_congr : m'.issueUnder pkiOf = m.issueUnder pkiOf := by
  funext op keyId issue
  apply h.route_bind
  intro r r' hr
  simp only [hr.keyClass, hr.engine, hr.backend, hr.path]

theorem issuerRoleFor_congr (keyId op : String) :
    Nats.issuerRoleFor m'.toBackendManager keyId op =
      Nats.issuerRoleFor m.toBackendManager keyId op := by
  rcases h.resolve keyId with ⟨_, hm, hm'⟩ | ⟨_, _, hm, hm', hr⟩
  · rw [Nats.issuerRoleFor, Nats.issuerRoleFor, hm, hm']
  · simp only [Nats.issuerRoleFor, Nats.issuerRole, hm, hm', mapError_ok, ok_bind, hr.natsType]

end Manager.Alike

/-! ### The whole behaviour -/

structure Surroundings (σ : Type) where
  instances : List String
  backendOf : String → Backend σ
  nixCacheOf : String → NixCacheBackend σ
  pkiOf : String → PkiBackend σ
  prims : Primitives
  crypto : SealCrypto
  cose : Cose.CoseEnv
  recipes : Recipes

def Surroundings.manager {σ : Type} (env : Surroundings σ) (catalog : Catalog) : Manager σ :=
  ⟨⟨catalog, env.instances⟩, env.backendOf, env.prims⟩

structure Selection where
  location : Location
  engine : Engine
  provider : ProviderMetadata
  storageKey : Option String
  unsealContext : Bytes → Except ManagerError (Option Cose.KdfParties)

def Routed.selection (routed : Routed) (keyId : String) : Selection :=
  ⟨routed.location, routed.engine, ProviderMetadata.fromKey routed.entry, routed.storageKey,
    pinnedContext keyId routed.entry.sealingPin⟩

/-- Every operation is the same procedure on the backends of both. -/
structure SameBehaviour {σ : Type} (env : Surroundings σ) (m m' : Manager σ) : Prop where
  selection : ∀ keyId, (m'.resolve keyId).map (selection · keyId) =
    (m.resolve keyId).map (selection · keyId)
  issuerRole : ∀ keyId op, Nats.issuerRoleFor m'.toBackendManager keyId op =
    Nats.issuerRoleFor m.toBackendManager keyId op
  recipe : ∀ keyId, (m'.catalog.keys.get? keyId).bind KeyEntry.generate =
    (m.catalog.keys.get? keyId).bind KeyEntry.generate
  newKey : m'.newKey = m.newKey
  importKey : m'.importKey = m.importKey
  sign : m'.sign = m.sign
  verify : m'.verify = m.verify
  getPublicKey : m'.getPublicKey = m.getPublicKey
  mlDsaAlgorithmFor : m'.mlDsaAlgorithmFor = m.mlDsaAlgorithmFor
  mlKemAlgorithmFor : m'.mlKemAlgorithmFor = m.mlKemAlgorithmFor
  describeProvider : m'.describeProvider = m.describeProvider
  providerSign : m'.providerSign = m.providerSign
  providerVerify : m'.providerVerify = m.providerVerify
  providerGenerate : m'.providerGenerate = m.providerGenerate
  providerGenerateSealing : m'.providerGenerateSealing = m.providerGenerateSealing
  list : m'.list = m.list
  encrypt : m'.encrypt = m.encrypt
  decrypt : m'.decrypt = m.decrypt
  wrapEnvelope : m'.wrapEnvelope env.crypto = m.wrapEnvelope env.crypto
  unwrapEnvelope : m'.unwrapEnvelope env.crypto = m.unwrapEnvelope env.crypto
  encryptNatsCurve : m'.encryptNatsCurve env.crypto = m.encryptNatsCurve env.crypto
  decryptNatsCurve : m'.decryptNatsCurve env.crypto = m.decryptNatsCurve env.crypto
  providerWrapEnvelope : m'.providerWrapEnvelope env.crypto = m.providerWrapEnvelope env.crypto
  providerUnwrapEnvelope :
    m'.providerUnwrapEnvelope env.crypto = m.providerUnwrapEnvelope env.crypto
  sealingPublicKey : Invocation.sealingPublicKey m' = Invocation.sealingPublicKey m
  unsealCose : m'.unsealCose env.cose = m.unsealCose env.cose
  get : m'.get = m.get
  set : m'.set = m.set
  rotate : m'.rotate env.recipes = m.rotate env.recipes
  sweepRetention : m'.sweepRetention = m.sweepRetention
  sweepAllRetention : m'.sweepAllRetention = m.sweepAllRetention
  enrollNixCacheKey : m'.enrollNixCacheKey env.nixCacheOf = m.enrollNixCacheKey env.nixCacheOf
  describeNixCacheKey :
    m'.describeNixCacheKey env.nixCacheOf = m.describeNixCacheKey env.nixCacheOf
  signNixCacheFingerprint :
    m'.signNixCacheFingerprint env.nixCacheOf = m.signNixCacheFingerprint env.nixCacheOf
  issueX509Svid : m'.issueX509Svid env.pkiOf = m.issueX509Svid env.pkiOf
  issueX509Cert : m'.issueX509Cert env.pkiOf = m.issueX509Cert env.pkiOf

namespace Manager.Alike

variable {σ : Type} {m m' : Manager σ}

theorem selection_congr (h : Alike m m') (keyId : String) :
    (m'.resolve keyId).map (selection · keyId) =
      (m.resolve keyId).map (selection · keyId) := by
  rcases h.resolve keyId with ⟨_, hm, hm'⟩ | ⟨r, r', hm, hm', hr⟩
  · rw [hm, hm']
  · have hselection : r'.selection keyId = r.selection keyId := by
      simp only [selection, location, hr.backend, hr.path, hr.engine, hr.provider,
        hr.storageKey, Selection.mk.injEq, true_and]
      exact funext hr.unsealContext
    rw [hm, hm']
    exact congrArg Except.ok hselection

theorem recipe_congr (h : Alike m m') (keyId : String) :
    (m'.catalog.keys.get? keyId).bind KeyEntry.generate =
      (m.catalog.keys.get? keyId).bind KeyEntry.generate := by
  have hget := OrdMap.map_get?_eq h.recipes_eq keyId
  have hjoin := congrArg (Option.bind · id) hget
  simpa only [bind_map, Function.id_comp] using hjoin

theorem sameBehaviour (h : Alike m m') (env : Surroundings σ) : SameBehaviour env m m' where
  selection := h.selection_congr
  issuerRole := h.issuerRoleFor_congr
  recipe := h.recipe_congr
  newKey := by
    funext keyId keyType
    apply h.route_bind
    intro r r' hr
    simp only [h.reads hr, requireMintIfAsymmetric_congr hr]
  importKey := by
    funext keyId keyType material
    apply h.route_bind
    intro r r' hr
    simp only [h.reads hr, requireMintIfAsymmetric_congr hr]
  sign := by
    funext keyId message
    apply h.route_bind
    intro r r' hr
    simp only [h.reads hr, h.materializeSigningSeed_congr]
  verify := by
    funext keyId message signature
    apply h.route_bind
    intro r r' hr
    simp only [h.reads hr, h.readPublicHalf_congr]
  getPublicKey := by
    funext keyId
    apply h.route_bind
    intro r r' hr
    simp only [softwareCustodied, h.reads hr, hr.provider, custodyPublicKey,
      h.readPublicHalf_congr]
    rfl
  mlDsaAlgorithmFor := by
    funext keyId
    rcases h.resolve keyId with ⟨_, hm, hm'⟩ | ⟨_, _, hm, hm', hr⟩
    · rw [mlDsaAlgorithmFor, mlDsaAlgorithmFor, hm, hm']
    · simp only [mlDsaAlgorithmFor, hm, hm', hr.keyType]
  mlKemAlgorithmFor := by
    funext keyId
    rcases h.resolve keyId with ⟨_, hm, hm'⟩ | ⟨_, _, hm, hm', hr⟩
    · rw [mlKemAlgorithmFor, mlKemAlgorithmFor, hm, hm']
    · simp only [mlKemAlgorithmFor, hm, hm', hr.keyType]
  describeProvider := by
    funext keyId
    rcases h.resolve keyId with ⟨_, hm, hm'⟩ | ⟨_, _, hm, hm', hr⟩
    · rw [describeProvider, describeProvider, hm, hm']
      rfl
    · simp only [describeProvider, hm, hm', mapError_ok, ok_bind, hr.provider, hr.providerVersion,
        hr.keyType, h.backend_congr hr]
  providerSign := by
    funext keyId message gate
    apply h.route_bind
    intro r r' hr
    simp only [h.reads hr, requireMlDsa_congr hr, h.dispatch_congr hr]
  providerVerify := by
    funext keyId message signature gate
    apply h.route_bind
    intro r r' hr
    simp only [h.reads hr, requireMlDsa_congr hr, h.dispatch_congr hr]
  providerGenerate := by
    funext keyId gate seed
    apply h.route_bind
    intro r r' hr
    simp only [h.reads hr, requireMlDsa_congr hr, h.dispatch_congr hr]
  providerGenerateSealing := by
    funext keyId kem gate seed
    apply h.route_bind
    intro r r' hr
    simp only [h.reads hr, h.dispatch_congr hr]
  list := h.list_congr
  encrypt := by
    funext keyId algorithm plaintext aad
    apply h.route_bind
    intro r r' hr
    simp only [h.reads hr]
  decrypt := by
    funext keyId envelope aad
    apply h.route_bind
    intro r r' hr
    simp only [h.reads hr]
  wrapEnvelope := by
    funext keyId plaintext aad entropy
    apply h.route_bind
    intro r r' hr
    simp only [h.reads hr, h.readPublicHalf_congr]
  unwrapEnvelope := by
    funext keyId env aad
    simp only [unwrapEnvelope, h.materializeSealingPrivate_congr]
  encryptNatsCurve := by
    funext keyId recipient plaintext entropy
    simp only [encryptNatsCurve, h.materializeSealingPrivate_congr]
  decryptNatsCurve := by
    funext keyId sender ciphertext
    simp only [decryptNatsCurve, h.materializeSealingPrivate_congr]
  providerWrapEnvelope := by
    funext keyId kem alg plaintext aad gate entropy
    apply h.route_bind
    intro r r' hr
    simp only [h.reads hr, h.dispatch_congr hr]
  providerUnwrapEnvelope := by
    funext keyId kem alg encapsulatedKey nonce ciphertext aad gate
    apply h.route_bind
    intro r r' hr
    simp only [h.reads hr, h.dispatch_congr hr]
  sealingPublicKey := by
    funext keyId
    apply h.route_bind
    intro r r' hr
    simp only [h.reads hr, h.readPublicHalf_congr]
  unsealCose := by
    funext keyId coseEncrypt externalAad
    apply h.route_bind
    intro r r' hr
    simp only [hr.unsealContext, h.materializeSealingPrivate_congr]
  get := by
    funext keyId version
    apply h.route_bind
    intro r r' hr
    simp only [h.reads hr]
  set := by
    funext keyId value
    apply h.route_bind
    intro r r' hr
    simp only [h.reads hr]
  rotate := by
    funext keyId limits
    apply h.route_bind
    intro r r' hr
    simp only [rotateValue, rotateCrypto, h.reads hr, hr.recipe, h.generatedWritesForKey_congr,
      h.putWrites_congr, ensure_congr (nixCache_none_congr hr)]
  sweepRetention := h.sweepRetention_congr
  sweepAllRetention := h.sweepAllRetention_congr
  enrollNixCacheKey := by
    funext keyId active
    apply h.route_bind
    intro r r' hr
    simp only [hr.backend, hr.path, requireRoutedIdentity_congr hr,
      validateNixCacheRoute_congr hr]
  describeNixCacheKey := by
    funext keyId active
    apply h.resolveEnrolled_bind
    intro r r' hr
    simp only [checkedPosture_congr env.nixCacheOf hr]
  signNixCacheFingerprint := by
    funext keyId active fingerprint
    apply h.resolveEnrolled_bind
    intro r r' hr
    simp only [hr.backend, hr.path, h.prims, checkedPosture_congr env.nixCacheOf hr]
  issueX509Svid := funext₃ fun _ _ _ => congrFun₃ (h.issueUnder_congr _) _ _ _
  issueX509Cert := funext₂ fun _ _ => congrFun₃ (h.issueUnder_congr _) _ _ _

end Manager.Alike

end Basil
