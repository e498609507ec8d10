import Basil.Provider

/-!
# Key operations of the manager (`core/manager.rs`)

Each operation resolves the catalog name, checks the key's class, and calls the backend the key is
routed to at the key's backend path.
-/

namespace Basil

open Proc

def KeyClass.debug : KeyClass → String
  | asymmetric => "Asymmetric"
  | symmetric => "Symmetric"
  | value => "Value"
  | publicKey => "Public"
  | sealing => "Sealing"

inductive ManagerError where
  | resolve (err : ResolveError)
  | opNotValidForClass (op key : String) (keyClass : KeyClass)
  | unsupportedKeyType (backend op : String) (keyType : KeyType)
  | unsupported (op : String)
  | algorithmMismatch (key : String) (requested : AeadAlgorithm) (actual : String)
  | kemAlgorithmMismatch (key requested actual : String)
  | valueRotateNeedsSet (key : String)
  | nixCacheEnrollment (key reason : String)
  | nixCacheRotationForbidden (key : String)
  | unsealContextNotPermitted (key : String)
  | sealingMalformed
  | sealingOpenFailed
  | signingMalformed
  | missingPublicPath (key : String)
  | provider (err : ProviderError)
  | backend (err : BackendError)
  deriving DecidableEq

def ManagerError.display : ManagerError → String
  | resolve err => err.display
  | opNotValidForClass op key keyClass =>
      "op `" ++ op ++ "` is not valid for key `" ++ key ++ "` (class " ++ keyClass.debug ++ ")"
  | unsupportedKeyType instanceName op keyType =>
      "backend `" ++ instanceName ++ "` does not declare support for " ++ op ++ " key type `" ++
        keyType.token ++ "`"
  | unsupported op => "op `" ++ op ++ "` is recognized but not yet backed by a Backend method"
  | algorithmMismatch key requested actual =>
      "algorithm `" ++ requested.token ++ "` does not match key `" ++ key ++ "` (catalog type " ++
        actual ++ ")"
  | kemAlgorithmMismatch key requested actual =>
      "KEM algorithm `" ++ requested ++ "` does not match key `" ++ key ++ "` (catalog type " ++
        actual ++ ")"
  | valueRotateNeedsSet key =>
      "value key `" ++ key ++ "` has no generate recipe; rotate via `set` instead"
  | nixCacheEnrollment key reason =>
      "Nix cache key `" ++ key ++ "` cannot be enrolled: " ++ reason
  | unsealContextNotPermitted key => "key `" ++ key ++ "` does not authorize this unseal context"
  | nixCacheRotationForbidden key =>
      "Nix cache key `" ++ key ++ "` is immutable; provision a new catalog key and Nix key name"
  | sealingMalformed => "sealing op failed: malformed sealing material or envelope"
  | sealingOpenFailed => "sealing op failed: unseal authentication failed"
  | signingMalformed => "materialize-to-sign op failed: malformed signing seed or verify input"
  | missingPublicPath key =>
      "key `" ++ key ++ "` has no public_path; its public half cannot be resolved"
  | provider err => "provider error: " ++ err.display
  | backend err => "backend error: " ++ err.display

structure BrokerLimits where
  maxEncryptSize : Nat
  maxPayloadSize : Nat
  graceVersions : Nat
  deriving DecidableEq

def BrokerLimits.graceFloor (limits : BrokerLimits) (latest : Nat) : Nat :=
  let floor := latest - limits.graceVersions
  if floor < 1 then 1 else floor

/-! ### Statuses (`service/shared.rs`) -/

def providerStatus (op : String) (err : ProviderError) : Status :=
  match err with
  | .unsupported .. => unsupportedAlgorithm op err.display
  | .policyDenied .. => unauthorized op
  | .cryptoFailed .. => invalidRequest op "provider operation failed"
  | .backend err => backendStatus op err

def managerStatus (op : String) (err : ManagerError) : Status :=
  match err with
  | .resolve (.unknownKey _) | .unsealContextNotPermitted _ => unauthorized op
  | .resolve (.unknownBackend _ _) | .missingPublicPath _ => internalStatus op err.display
  | .opNotValidForClass .. | .algorithmMismatch .. | .kemAlgorithmMismatch ..
  | .valueRotateNeedsSet _ | .nixCacheEnrollment .. | .nixCacheRotationForbidden _
  | .sealingMalformed | .signingMalformed => invalidRequest op err.display
  | .unsupportedKeyType .. => unsupportedAlgorithm op err.display
  | .unsupported _ => Basil.unsupported op err.display
  | .sealingOpenFailed => decryptFailedStatus op
  | .provider err => providerStatus op err
  | .backend err => backendStatus op err

/-! ### Checks on a routed key -/

def requireClass (op keyId : String) (keyClass : KeyClass) (allowed : List KeyClass) :
    Except ManagerError Unit :=
  ensure (keyClass ∈ allowed) (.opNotValidForClass op keyId keyClass)

namespace Routed

def backendDeclaresProvides (routed : Routed) : Bool :=
  !(routed.backendRef.engines.isEmpty && routed.backendRef.capabilities.isEmpty &&
    routed.backendRef.mintKeyTypes.isEmpty)

def requireMintKeyType (routed : Routed) (op : String) (keyType : KeyType) :
    Except ManagerError Unit :=
  ensure (routed.backendDeclaresProvides = false ∨
      KeyAlgorithm.fromWireKeyType keyType ∈ routed.backendRef.mintKeyTypes)
    (.unsupportedKeyType routed.entry.backend op keyType)

def requireMintIfAsymmetric (routed : Routed) (op : String) (keyType : KeyType) :
    Except ManagerError Unit :=
  if routed.entry.keyClass = .asymmetric then routed.requireMintKeyType op keyType else .ok ()

def storageKey (routed : Routed) : Option String := routed.entry.labels.get "pqc_storage_key"

def requireMlDsa (routed : Routed) (keyId : String) : Except ManagerError SignatureAlgorithm :=
  orErr (routed.entry.keyType.bind mlDsaSignatureAlgorithm)
    (.opNotValidForClass "provider_dispatch" keyId routed.entry.keyClass)

end Routed

def signOptionsForKey : Option KeyAlgorithm → SignOptions
  | some .rsa2048 => .rs256Pkcs1v15Sha256
  | some .ecdsaP256 => .es256
  | some .ecdsaP384 => .es384
  | some .ecdsaP521 => .es512
  | _ => .default

def KemAlgorithm.keyAlgorithm : KemAlgorithm → KeyAlgorithm
  | mlKem512 => .mlKem512
  | mlKem768 => .mlKem768
  | mlKem1024 => .mlKem1024

def requireMlKemSealingKey (keyId : String) (actual : Option KeyAlgorithm)
    (requested : KemAlgorithm) : Except ManagerError Unit :=
  ensure (actual = some requested.keyAlgorithm)
    (.kemAlgorithmMismatch keyId requested.token ((actual.map KeyAlgorithm.token).getD "none"))

def mlDsaWireKeyType : SignatureAlgorithm → KeyType
  | .mlDsa44 => .mlDsa44
  | .mlDsa65 => .mlDsa65
  | .mlDsa87 => .mlDsa87
  | .ed25519 | .ed25519Nkey | .rs256 | .es256 => .ed25519

def mlKemWireKeyType : KemAlgorithm → KeyType
  | .mlKem512 => .mlKem512
  | .mlKem768 => .mlKem768
  | .mlKem1024 => .mlKem1024

structure KeyProviderDescriptor where
  policy : ProviderPolicy
  provider : Option CryptoProviderId
  custody : Option CustodyMode
  version : Option String
  backendNativeAvailable : Bool
  deriving DecidableEq

inductive CatalogKind where
  | signing
  | encryption
  | value
  deriving DecidableEq

def keyKind (entry : KeyEntry) : CatalogKind :=
  match entry.keyClass with
  | .asymmetric | .publicKey => .signing
  | .symmetric | .sealing => .encryption
  | .value => .value

def KeyEntry.wireKeyType (entry : KeyEntry) : Option KeyType :=
  match entry.keyType with
  | some .ed25519 => some .ed25519
  | some .ed25519Nkey => some .ed25519Nkey
  | some .rsa2048 => some .rsa2048
  | some .ecdsaP256 => some .ecdsaP256
  | some .ecdsaP384 => some .ecdsaP384
  | some .ecdsaP521 => some .ecdsaP521
  | some .mlDsa44 => some .mlDsa44
  | some .mlDsa65 => some .mlDsa65
  | some .mlDsa87 => some .mlDsa87
  | _ => none

structure CatalogEntry where
  name : String
  kind : CatalogKind
  keyType : Option KeyType
  latestVersion : Nat
  deriving DecidableEq

structure ProviderDispatch where
  provider : CryptoProviderId
  algorithm : String
  custody : CustodyMode
  deriving DecidableEq

structure Manager (σ : Type) extends BackendManager where
  backendOf : String → Backend σ
  prims : Primitives

namespace Manager

variable {σ : Type} (m : Manager σ)

def backend (routed : Routed) : Backend σ := m.backendOf routed.entry.backend

def route (keyId : String) : Proc σ ManagerError Routed :=
  .check ((m.resolve keyId).mapError .resolve)

def newKey (keyId : String) (keyType : KeyType) : Proc σ ManagerError NewKey := do
  let routed ← m.route keyId
  check (requireClass "new_key" keyId routed.entry.keyClass [.asymmetric, .symmetric])
  check (routed.requireMintIfAsymmetric "new_key" keyType)
  ((m.backend routed).newKey keyType).mapErr .backend

def importKey (keyId : String) (keyType : KeyType) (material : KeyMaterial) :
    Proc σ ManagerError NewKey := do
  let routed ← m.route keyId
  check (requireClass "import" keyId routed.entry.keyClass [.asymmetric, .symmetric])
  check (ensure (routed.engine ≠ .kv2) (.unsupported
    "import: a value-store (kv2) crypto key is provisioned out-of-band, not imported via the broker"))
  check (routed.requireMintIfAsymmetric "import" keyType)
  ((m.backend routed).importKey routed.entry.path keyType material).mapErr .backend

/-! ### In-process Ed25519 keys of the value store -/

def materializeSigningSeed (keyId op : String) : Proc σ ManagerError (FixedBytes 32) := do
  let routed ← m.route keyId
  check (requireClass op keyId routed.entry.keyClass [.asymmetric])
  let secret ← ((m.backend routed).kvGetSecret routed.entry.path none).mapErr .backend
  check (orErr (FixedBytes.ofBytes? 32 secret.value) .signingMalformed)

def readPublicHalf (keyId op : String) (allowed : List KeyClass) : Proc σ ManagerError Bytes := do
  let routed ← m.route keyId
  check (requireClass op keyId routed.entry.keyClass allowed)
  let publicPath ← check (orErr routed.entry.publicPath (.missingPublicPath keyId))
  let kv ← ((m.backend routed).kvGet publicPath none).mapErr .backend
  return kv.value

/-! ### Listing -/

def listEntry (name : String) (entry : KeyEntry) : Proc σ ManagerError CatalogEntry := do
  let found ← match m.resolve name with
    | .ok routed => attempt ((m.backend routed).keyMetadata routed.entry.path)
    | .error _ => pure (.error (.keyNotFound name))
  match found with
  | .ok metadata => return ⟨name, keyKind entry, metadata.keyType, metadata.latestVersion⟩
  | .error _ => return ⟨name, keyKind entry, entry.wireKeyType, 0⟩

def list (lead : Option String) (visible : String → Bool) :
    Proc σ ManagerError (List CatalogEntry) :=
  (m.catalog.keys.entries.filter fun e =>
    lead.all (fun p => (Text.stripLead p e.1).isSome) && visible e.1).mapM
      fun e => m.listEntry e.1 e.2

/-! ### Signing -/

def sign (keyId : String) (message : Bytes) : Proc σ ManagerError Bytes := do
  let routed ← m.route keyId
  check (requireClass "sign" keyId routed.entry.keyClass [.asymmetric])
  if routed.engine = .kv2 then
    let seed ← m.materializeSigningSeed keyId "sign"
    return (m.prims.ed25519Sign seed message).bytes
  else
    ((m.backend routed).signWithOptions routed.entry.path message
      (signOptionsForKey routed.entry.keyType)).mapErr .backend

def verify (keyId : String) (message signature : Bytes) : Proc σ ManagerError Bool := do
  let routed ← m.route keyId
  check (requireClass "verify" keyId routed.entry.keyClass [.asymmetric, .publicKey])
  if routed.entry.keyClass = .asymmetric ∧ routed.engine = .kv2 then
    let publicBytes ← m.readPublicHalf keyId "verify" [.asymmetric]
    let publicKey ← check (orErr (FixedBytes.ofBytes? 32 publicBytes) .signingMalformed)
    let signature ← check (orErr (FixedBytes.ofBytes? 64 signature) .signingMalformed)
    return m.prims.ed25519Verify publicKey message signature
  else
    ((m.backend routed).verifyWithOptions routed.entry.path message signature
      (signOptionsForKey routed.entry.keyType)).mapErr .backend

def softwareCustodied (routed : Routed) : Bool :=
  (ProviderMetadata.fromKey routed.entry).custody == some .softwareEncrypted

def custodyPublicKey (routed : Routed) (keyId token : String) (keyType : KeyType) :
    Proc σ ManagerError PublicKey := do
  let publicKey ← (LocalSoftwareProvider.publicKey m.prims (m.backend routed) keyId
    routed.entry.path routed.storageKey token).mapErr .provider
  return ⟨publicKey, keyType, 1⟩

def getPublicKey (keyId : String) : Proc σ ManagerError PublicKey := do
  let routed ← m.route keyId
  -- an ML-KEM sealing key is answered before the class check, which would reject it
  match (if routed.entry.keyClass = .sealing ∧ softwareCustodied routed = true then
      routed.entry.keyType.bind mlKemProviderAlgorithm else none) with
  | some kem => m.custodyPublicKey routed keyId kem.token (mlKemWireKeyType kem)
  | none =>
    check (requireClass "get_public_key" keyId routed.entry.keyClass [.asymmetric, .publicKey])
    match (if softwareCustodied routed = true then
        routed.entry.keyType.bind mlDsaSignatureAlgorithm else none) with
    | some algorithm => m.custodyPublicKey routed keyId algorithm.token (mlDsaWireKeyType algorithm)
    | none =>
      if routed.entry.keyClass = .asymmetric ∧ routed.engine = .kv2 then
        let publicBytes ← m.readPublicHalf keyId "get_public_key" [.asymmetric]
        let publicKey ← check (orErr (FixedBytes.ofBytes? 32 publicBytes) .signingMalformed)
        return ⟨publicKey.bytes, .ed25519, 1⟩
      else
        ((m.backend routed).publicKeyWithMeta routed.entry.path).mapErr .backend

/-! ### Provider dispatch -/

def mlDsaAlgorithmFor (keyId : String) : Option SignatureAlgorithm :=
  match m.resolve keyId with
  | .ok routed => routed.entry.keyType.bind mlDsaSignatureAlgorithm
  | .error _ => none

def mlKemAlgorithmFor (keyId : String) : Option KemAlgorithm :=
  match m.resolve keyId with
  | .ok routed => routed.entry.keyType.bind mlKemProviderAlgorithm
  | .error _ => none

def selectProviderFor (routed : Routed) (native : Option NativeAlgorithm) (gate : Bool) (op : String) :
    Except ManagerError CryptoProviderId :=
  (selectProvider (ProviderMetadata.fromKey routed.entry)
    (native.any (m.backend routed).supportsNativeAlgorithm) gate op).mapError .provider

def describeProvider (keyId : String) : Except ManagerError KeyProviderDescriptor := do
  let routed ← (m.resolve keyId).mapError .resolve
  let metadata := ProviderMetadata.fromKey routed.entry
  let native := (routed.entry.keyType.bind mlDsaSignatureAlgorithm).bind
    SignatureAlgorithm.nativeAlgorithm
  return ⟨metadata.policy, metadata.provider, metadata.custody,
    routed.entry.labels.get "crypto_provider_version",
    native.any (m.backend routed).supportsNativeAlgorithm⟩

/-- Select the provider, run the operation on it, and report which one served it. -/
def dispatch {α : Type} (routed : Routed) (native : Option NativeAlgorithm) (gate : Bool)
    (op algorithm : String) (run : CryptoProviderId → Proc σ ProviderError α) :
    Proc σ ManagerError (α × ProviderDispatch) := do
  let provider ← check (m.selectProviderFor routed native gate op)
  let result ← (run provider).mapErr .provider
  return (result, ⟨provider, algorithm, provider.custodyMode⟩)

def providerSign (keyId : String) (message : Bytes) (gate : Bool) :
    Proc σ ManagerError (Bytes × ProviderDispatch) := do
  let routed ← m.route keyId
  check (requireClass "sign" keyId routed.entry.keyClass [.asymmetric])
  let algorithm ← check (routed.requireMlDsa keyId)
  m.dispatch routed algorithm.nativeAlgorithm gate "sign" algorithm.token fun
    | .vaultTransit =>
        BackendCryptoProvider.sign (m.backend routed) routed.entry.path algorithm message
    | .localSoftware =>
        LocalSoftwareProvider.sign m.prims (m.backend routed) keyId routed.entry.path algorithm
          message routed.storageKey

def providerVerify (keyId : String) (message signature : Bytes) (gate : Bool) :
    Proc σ ManagerError (Bool × ProviderDispatch) := do
  let routed ← m.route keyId
  check (requireClass "verify" keyId routed.entry.keyClass [.asymmetric, .publicKey])
  let algorithm ← check (routed.requireMlDsa keyId)
  m.dispatch routed algorithm.nativeAlgorithm gate "verify" algorithm.token fun
    | .vaultTransit =>
        BackendCryptoProvider.verify (m.backend routed) routed.entry.path algorithm message signature
    | .localSoftware =>
        LocalSoftwareProvider.verify m.prims (m.backend routed) keyId routed.entry.path algorithm
          message signature routed.storageKey

def providerGenerate (keyId : String) (gate : Bool) (seed : FixedBytes mlDsaSeedLen) :
    Proc σ ManagerError (NewKey × ProviderDispatch) := do
  let routed ← m.route keyId
  check (requireClass "new_key" keyId routed.entry.keyClass [.asymmetric])
  let algorithm ← check (routed.requireMlDsa keyId)
  m.dispatch routed algorithm.nativeAlgorithm gate "generate" algorithm.token fun
    | .vaultTransit =>
        BackendCryptoProvider.generateKey (m.backend routed) routed.entry.path algorithm
    | .localSoftware =>
        LocalSoftwareProvider.generateKey m.prims (m.backend routed) keyId routed.entry.path
          algorithm routed.storageKey seed

def providerGenerateSealing (keyId : String) (kem : KemAlgorithm) (gate : Bool)
    (seed : FixedBytes mlKemSeedLen) : Proc σ ManagerError (NewKey × ProviderDispatch) := do
  let routed ← m.route keyId
  check (requireClass "new_key" keyId routed.entry.keyClass [.sealing])
  check (requireMlKemSealingKey keyId routed.entry.keyType kem)
  m.dispatch routed kem.nativeAlgorithm gate "generate" kem.token fun
    | .vaultTransit => BackendCryptoProvider.generateSealingKey kem
    | .localSoftware =>
        LocalSoftwareProvider.generateSealingKey m.prims (m.backend routed) keyId
          routed.entry.path kem routed.storageKey seed

/-! ### Who may be served by the local software provider -/

def Gated (gate : Bool) (d : ProviderDispatch) : Prop := d.provider = .localSoftware → gate = true

section Gated

variable {m} {ε α β : Type} {gate : Bool} {out : α → Option ProviderDispatch}

/-- Whatever dispatch a result of `p` reports, the gate admits it. -/
def Admits (gate : Bool) (out : α → Option ProviderDispatch) (p : Proc σ ε α) : Prop :=
  ∀ s a s', p.exec s = (.ok a, s') → ∀ d ∈ out a, Gated gate d

theorem Admits.after {p : Proc σ ε β} {f : β → Proc σ ε α} (h : ∀ b, Admits gate out (f b)) :
    Admits gate out (p >>= f) := by
  intro s a s' hrun
  obtain ⟨b, s₁, -, hrest⟩ := exec_bind_ok.mp hrun
  exact h b s₁ a s' hrest

theorem Admits.returns {p : Proc σ ε α} {g : α → β} {out' : β → Option ProviderDispatch}
    (h : Admits gate out p) (hout : ∀ a, out' (g a) = out a) :
    Admits gate out' (p >>= fun a => pure (g a)) := by
  intro s b s' hrun
  obtain ⟨a, _, hfirst, hreturn⟩ := exec_bind_ok.mp hrun
  cases hreturn
  rw [hout]
  exact h s a _ hfirst

theorem Admits.mapErr {p : Proc σ ε α} (h : Admits gate out p) {ε' : Type} (e : ε → ε') :
    Admits gate out (p.mapErr e) :=
  fun s a s' hrun => h s a s' (exec_mapErr_ok.mp hrun)

theorem dispatch_gated {routed : Routed} {native : Option NativeAlgorithm} {op algorithm : String}
    {run : CryptoProviderId → Proc σ ProviderError α} :
    Admits gate (fun r => some r.2) (m.dispatch routed native gate op algorithm run) := by
  intro s r s' h d hd
  simp only [dispatch, selectProviderFor, exec_bind_ok, exec_check_ok, mapError_eq_ok] at h
  obtain ⟨provider, _, ⟨hselect, -⟩, _, _, -, hreturn⟩ := h
  cases hreturn
  cases hd
  intro hlocal
  change provider = .localSoftware at hlocal
  rcases selectProvider_ok hselect with ⟨hbackend, -⟩ | ⟨-, hgate, -⟩
  · rw [hlocal] at hbackend
    cases hbackend
  · exact hgate

variable {keyId : String}

theorem providerSign_gated {message : Bytes} :
    Admits gate (fun r => some r.2) (m.providerSign keyId message gate) :=
  .after fun _ => .after fun _ => .after fun _ => dispatch_gated

theorem providerVerify_gated {message signature : Bytes} :
    Admits gate (fun r => some r.2) (m.providerVerify keyId message signature gate) :=
  .after fun _ => .after fun _ => .after fun _ => dispatch_gated

theorem providerGenerate_gated {seed : FixedBytes mlDsaSeedLen} :
    Admits gate (fun r => some r.2) (m.providerGenerate keyId gate seed) :=
  .after fun _ => .after fun _ => .after fun _ => dispatch_gated

theorem providerGenerateSealing_gated {kem : KemAlgorithm} {seed : FixedBytes mlKemSeedLen} :
    Admits gate (fun r => some r.2) (m.providerGenerateSealing keyId kem gate seed) :=
  .after fun _ => .after fun _ => .after fun _ => dispatch_gated

end Gated

end Manager

end Basil
