import Basil.Backend

/-!
# Provider selection and software custody (`core/crypto_provider.rs`)

Post-quantum keys are served by a provider: the backend itself, where it holds such keys natively,
or the local software provider, whose private seed is kept in the KV store sealed under a storage
AEAD key.
-/

namespace Basil

open Proc

/-! ### Algorithms -/

inductive SignatureAlgorithm where
  | ed25519
  | ed25519Nkey
  | rs256
  | es256
  | mlDsa44
  | mlDsa65
  | mlDsa87
  deriving DecidableEq

inductive MlDsaAlgorithm where
  | mlDsa44
  | mlDsa65
  | mlDsa87
  deriving DecidableEq

def MlDsaAlgorithm.token : MlDsaAlgorithm → String
  | mlDsa44 => "ml-dsa-44"
  | mlDsa65 => "ml-dsa-65"
  | mlDsa87 => "ml-dsa-87"

def mlDsaSeedLen : Nat := 32
def mlKemSeedLen : Nat := 64

namespace SignatureAlgorithm

def token : SignatureAlgorithm → String
  | ed25519 => "ed25519"
  | ed25519Nkey => "ed25519-nkey"
  | rs256 => "rs256"
  | es256 => "es256"
  | mlDsa44 => "ml-dsa-44"
  | mlDsa65 => "ml-dsa-65"
  | mlDsa87 => "ml-dsa-87"

def nativeAlgorithm : SignatureAlgorithm → Option NativeAlgorithm
  | mlDsa44 => some .mlDsa44
  | mlDsa65 => some .mlDsa65
  | mlDsa87 => some .mlDsa87
  | ed25519 | ed25519Nkey | rs256 | es256 => none

def mlDsaAlgorithm : SignatureAlgorithm → Option MlDsaAlgorithm
  | mlDsa44 => some .mlDsa44
  | mlDsa65 => some .mlDsa65
  | mlDsa87 => some .mlDsa87
  | ed25519 | ed25519Nkey | rs256 | es256 => none

def keyTypeForSignature : SignatureAlgorithm → Option KeyType
  | ed25519 => some .ed25519
  | ed25519Nkey => some .ed25519Nkey
  | rs256 => some .rsa2048
  | es256 => some .ecdsaP256
  | mlDsa44 | mlDsa65 | mlDsa87 => none

def signOptions : SignatureAlgorithm → Option SignOptions
  | ed25519 | ed25519Nkey => some .default
  | rs256 => some .rs256Pkcs1v15Sha256
  | es256 => some .es256
  | mlDsa44 | mlDsa65 | mlDsa87 => none

end SignatureAlgorithm

def mlDsaSignatureAlgorithm : KeyAlgorithm → Option SignatureAlgorithm
  | .mlDsa44 => some .mlDsa44
  | .mlDsa65 => some .mlDsa65
  | .mlDsa87 => some .mlDsa87
  | _ => none

inductive KemAlgorithm where
  | mlKem512
  | mlKem768
  | mlKem1024
  deriving DecidableEq

def KemAlgorithm.token : KemAlgorithm → String
  | mlKem512 => "ml-kem-512"
  | mlKem768 => "ml-kem-768"
  | mlKem1024 => "ml-kem-1024"

def KemAlgorithm.nativeAlgorithm : KemAlgorithm → Option NativeAlgorithm
  | mlKem512 | mlKem768 | mlKem1024 => none

def mlKemProviderAlgorithm : KeyAlgorithm → Option KemAlgorithm
  | .mlKem512 => some .mlKem512
  | .mlKem768 => some .mlKem768
  | .mlKem1024 => some .mlKem1024
  | _ => none

/-! ### Provider selection -/

inductive CryptoProviderId where
  | vaultTransit
  | localSoftware
  deriving DecidableEq

inductive ProviderPolicy where
  | backendRequired
  | backendPreferred
  | localSoftware
  deriving DecidableEq

inductive CustodyMode where
  | backendNative
  | softwareEncrypted
  deriving DecidableEq

def CustodyMode.token : CustodyMode → String
  | backendNative => "backend-native"
  | softwareEncrypted => "software-encrypted"

namespace CryptoProviderId

def token : CryptoProviderId → String
  | vaultTransit => "vault-transit"
  | localSoftware => "local-software"

def debug : CryptoProviderId → String
  | vaultTransit => "VaultTransit"
  | localSoftware => "LocalSoftware"

def custodyMode : CryptoProviderId → CustodyMode
  | vaultTransit => .backendNative
  | localSoftware => .softwareEncrypted

end CryptoProviderId

structure ProviderMetadata where
  provider : Option CryptoProviderId
  policy : ProviderPolicy
  custody : Option CustodyMode
  deriving DecidableEq

def ProviderMetadata.fromKey (entry : KeyEntry) : ProviderMetadata where
  provider :=
    match entry.labels.get "crypto_provider" with
    | some "vault-transit" => some .vaultTransit
    | some "local-software" => some .localSoftware
    | _ => none
  policy :=
    match entry.labels.get "crypto_provider_policy" with
    | some "backend-preferred" => .backendPreferred
    | some "local-software" => .localSoftware
    | _ => .backendRequired
  custody :=
    match entry.labels.get "pqc_custody" with
    | some "backend-native" => some .backendNative
    | some "software-encrypted" => some .softwareEncrypted
    | _ => none

inductive ProviderError where
  | unsupported (provider : CryptoProviderId) (op algorithm : String)
  | policyDenied (op reason : String)
  | cryptoFailed (provider : CryptoProviderId) (op algorithm reason : String)
  | backend (err : BackendError)
  deriving DecidableEq

def ProviderError.display : ProviderError → String
  | unsupported provider op algorithm =>
      "provider " ++ provider.debug ++ " does not support " ++ op ++ " for " ++ algorithm
  | policyDenied op reason => "provider policy denied " ++ op ++ ": " ++ reason
  | cryptoFailed provider op algorithm reason =>
      "provider " ++ provider.debug ++ " " ++ op ++ " failed for " ++ algorithm ++ ": " ++ reason
  | backend err => err.display

def requireLocalSoftwareAllowed (localSoftwareAllowed : Bool) (op : String) :
    Except ProviderError Unit :=
  ensure (localSoftwareAllowed = true)
    (.policyDenied op "local software custody requires caller policy grant")

def requireSoftwareCustody (custody : Option CustodyMode) (op reason : String) :
    Except ProviderError Unit :=
  ensure (custody = some .softwareEncrypted) (.policyDenied op reason)

def selectBackendRequired (backendNativeSupported : Bool) (op : String) :
    Except ProviderError CryptoProviderId := do
  ensure (backendNativeSupported = true) (.unsupported .vaultTransit op "backend-native")
  return .vaultTransit

def selectBackendPreferred (custody : Option CustodyMode)
    (backendNativeSupported localSoftwareAllowed : Bool) (op : String) :
    Except ProviderError CryptoProviderId :=
  -- a key under software custody stays there even when the backend could hold it
  if custody = some .softwareEncrypted then do
    requireLocalSoftwareAllowed localSoftwareAllowed op
    return .localSoftware
  else if backendNativeSupported then
    .ok .vaultTransit
  else do
    requireLocalSoftwareAllowed localSoftwareAllowed op
    requireSoftwareCustody custody op "local software fallback requires software-encrypted custody"
    return .localSoftware

def selectLocalSoftware (custody : Option CustodyMode) (localSoftwareAllowed : Bool) (op : String) :
    Except ProviderError CryptoProviderId := do
  requireLocalSoftwareAllowed localSoftwareAllowed op
  requireSoftwareCustody custody op "local software provider requires software-encrypted custody"
  return .localSoftware

def selectProvider (metadata : ProviderMetadata) (backendNativeSupported localSoftwareAllowed : Bool)
    (op : String) : Except ProviderError CryptoProviderId :=
  match metadata.policy with
  | .backendRequired => selectBackendRequired backendNativeSupported op
  | .backendPreferred =>
      selectBackendPreferred metadata.custody backendNativeSupported localSoftwareAllowed op
  | .localSoftware => selectLocalSoftware metadata.custody localSoftwareAllowed op

theorem selectProvider_ok {metadata : ProviderMetadata} {native allowed : Bool} {op : String}
    {provider : CryptoProviderId} (h : selectProvider metadata native allowed op = .ok provider) :
    (provider = .vaultTransit ∧ native = true) ∨
      (provider = .localSoftware ∧ allowed = true ∧
        metadata.custody = some .softwareEncrypted) := by
  unfold selectProvider at h
  cases hpolicy : metadata.policy with
  | backendRequired =>
    simp only [hpolicy, selectBackendRequired, eq_ok] at h
    obtain ⟨-, hnative, rfl⟩ := h
    exact .inl ⟨rfl, hnative⟩
  | backendPreferred =>
    simp only [hpolicy, selectBackendPreferred, requireLocalSoftwareAllowed,
      requireSoftwareCustody] at h
    by_cases hcustody : metadata.custody = some .softwareEncrypted
    · simp only [hcustody, if_true, eq_ok] at h
      obtain ⟨-, hallowed, rfl⟩ := h
      exact .inr ⟨rfl, hallowed, hcustody⟩
    · simp only [hcustody, if_false] at h
      split at h
      · next hnative =>
        cases h
        exact .inl ⟨rfl, hnative⟩
      · -- the fallback asks for the custody that this branch has ruled out
        simp only [eq_ok] at h
        obtain ⟨-, -, -, hsealed, -⟩ := h
        exact hsealed.elim
  | localSoftware =>
    simp only [hpolicy, selectLocalSoftware, requireLocalSoftwareAllowed, requireSoftwareCustody,
      eq_ok] at h
    obtain ⟨-, hallowed, -, hcustody, rfl⟩ := h
    exact .inr ⟨rfl, hallowed, hcustody⟩

theorem selectProvider_op {metadata : ProviderMetadata} {native allowed : Bool} {op : String}
    {provider : CryptoProviderId} (h : selectProvider metadata native allowed op = .ok provider)
    (op' : String) : selectProvider metadata native allowed op' = .ok provider := by
  unfold selectProvider at h ⊢
  cases hpolicy : metadata.policy with
  | backendRequired =>
    simp only [hpolicy, selectBackendRequired, eq_ok] at h ⊢
    exact h
  | backendPreferred =>
    simp only [hpolicy, selectBackendPreferred, requireLocalSoftwareAllowed,
      requireSoftwareCustody] at h ⊢
    split at h
    · next hcustody =>
      simp only [hcustody, if_true, eq_ok] at h ⊢
      exact h
    · next hcustody =>
      rw [if_neg hcustody]
      split at h
      · next hnative =>
        rw [if_pos hnative]
        exact h
      · next hnative =>
        rw [if_neg hnative]
        simp only [eq_ok] at h ⊢
        exact h
  | localSoftware =>
    simp only [hpolicy, selectLocalSoftware, requireLocalSoftwareAllowed, requireSoftwareCustody,
      eq_ok] at h ⊢
    exact h

/-! ### Custody records -/

structure SoftwareCustodyCatalog where
  keyId : String
  algorithm : String
  provider : String
  providerVersion : String
  custody : String
  storageKey : String
  deriving DecidableEq

def SoftwareCustodyCatalog.aad (catalog : SoftwareCustodyCatalog) (keyVersion : Nat) : Bytes :=
  ("basil:pqc-software-custody:v1\nkey_id=" ++ catalog.keyId ++ "\nkey_version=" ++
    toString keyVersion ++ "\nalgorithm=" ++ catalog.algorithm ++ "\nprovider=" ++
    catalog.provider ++ "\nprovider_version=" ++ catalog.providerVersion ++ "\ncustody=" ++
    catalog.custody ++ "\nstorage_key=" ++ catalog.storageKey ++ "\n").toUTF8.toList

structure EncryptedPrivateKey where
  wrappingKey : String
  algorithm : String
  keyVersion : Nat
  nonce : String
  ciphertext : String
  deriving DecidableEq

structure SoftwareCustodyKeyRecord where
  schemaVersion : Nat
  keyId : String
  keyVersion : Nat
  publicKey : String
  algorithm : String
  provider : String
  providerVersion : String
  custody : String
  encryptedPrivateKey : EncryptedPrivateKey
  deriving DecidableEq

inductive SoftwareCustodyRecordError where
  | malformed
  | metadataMismatch (field : String)
  | unsupportedStorageAead
  deriving DecidableEq

/-- What the broker takes from other crates: base64, the JSON form of a record, and
the signature schemes it runs in process. -/
structure Primitives where
  b64Encode : Bytes → String
  b64Decode : String → Option Bytes
  recordToVec : SoftwareCustodyKeyRecord → Option Bytes
  recordFromSlice : Bytes → Option SoftwareCustodyKeyRecord
  mlDsaPublicFromSeed : MlDsaAlgorithm → Bytes → Option Bytes
  mlDsaSign : MlDsaAlgorithm → Bytes → Bytes → Option Bytes
  mlDsaVerify : MlDsaAlgorithm → Bytes → Bytes → Bytes → Option Bool
  mlKemPublicFromSeed : KemAlgorithm → Bytes → Option Bytes
  ed25519Sign : FixedBytes 32 → Bytes → FixedBytes 64
  ed25519Verify : FixedBytes 32 → Bytes → FixedBytes 64 → Bool

/-- The primitives of a manager whose keys need none: every input is refused. -/
def Primitives.refusing : Primitives where
  b64Encode := fun _ => ""
  b64Decode := fun _ => none
  recordToVec := fun _ => none
  recordFromSlice := fun _ => none
  mlDsaPublicFromSeed := fun _ _ => none
  mlDsaSign := fun _ _ _ => none
  mlDsaVerify := fun _ _ _ _ => none
  mlKemPublicFromSeed := fun _ _ => none
  ed25519Sign := fun _ _ => .fill 64 0
  ed25519Verify := fun _ _ _ => false

def parseStorageAead (token : String) : Except SoftwareCustodyRecordError AeadAlgorithm :=
  match token with
  | "aes-256-gcm" => .ok .aes256Gcm
  | "chacha20-poly1305" => .ok .chacha20Poly1305
  | _ => .error .unsupportedStorageAead

structure LocalSoftwareMaterial where
  ciphertext : CiphertextEnvelope
  aad : Bytes
  storageKey : String
  publicKey : Bytes
  keyVersion : Nat
  deriving DecidableEq

namespace SoftwareCustodyKeyRecord

variable (prims : Primitives)

def currentSchemaVersion : Nat := 1

def decodeB64 (value : String) : Except SoftwareCustodyRecordError Bytes :=
  orErr (prims.b64Decode value) .malformed

def openEnvelope (record : SoftwareCustodyKeyRecord) :
    Except SoftwareCustodyRecordError CiphertextEnvelope := do
  let alg ← parseStorageAead record.encryptedPrivateKey.algorithm
  let nonce ← decodeB64 prims record.encryptedPrivateKey.nonce
  let ciphertext ← decodeB64 prims record.encryptedPrivateKey.ciphertext
  return ⟨alg, record.encryptedPrivateKey.keyVersion, nonce, ciphertext⟩

def validateMetadata (record : SoftwareCustodyKeyRecord) (catalog : SoftwareCustodyCatalog)
    (kvVersion : Nat) : Except SoftwareCustodyRecordError Unit := do
  ensure (record.schemaVersion = currentSchemaVersion) (.metadataMismatch "schema_version")
  ensure (record.keyId = catalog.keyId) (.metadataMismatch "key_id")
  ensure (record.keyVersion = kvVersion) (.metadataMismatch "key_version")
  ensure (record.algorithm = catalog.algorithm) (.metadataMismatch "algorithm")
  ensure (record.provider = catalog.provider) (.metadataMismatch "provider")
  ensure (record.providerVersion = catalog.providerVersion) (.metadataMismatch "provider_version")
  ensure (record.custody = catalog.custody) (.metadataMismatch "custody")
  ensure (record.publicKey ≠ "" ∧ (prims.b64Decode record.publicKey).isSome = true) .malformed
  ensure (record.encryptedPrivateKey.wrappingKey = catalog.storageKey)
    (.metadataMismatch "wrapping_key")
  ensure (record.encryptedPrivateKey.keyVersion ≠ 0)
    (.metadataMismatch "encrypted_private_key.key_version")

def parseForLocalSoftware (bytes : Bytes) (keyId algorithm providerVersion : String)
    (kvVersion : Nat) (storageKey : String) :
    Except SoftwareCustodyRecordError LocalSoftwareMaterial := do
  let record ← orErr (prims.recordFromSlice bytes) .malformed
  let catalog : SoftwareCustodyCatalog :=
    ⟨keyId, algorithm, CryptoProviderId.localSoftware.token, providerVersion,
      CustodyMode.softwareEncrypted.token, storageKey⟩
  validateMetadata prims record catalog kvVersion
  let ciphertext ← openEnvelope prims record
  let publicKey ← decodeB64 prims record.publicKey
  return ⟨ciphertext, catalog.aad record.keyVersion, storageKey, publicKey, kvVersion⟩

end SoftwareCustodyKeyRecord

/-! ### The backend as provider -/

namespace BackendCryptoProvider

variable {σ : Type} (backend : Backend σ)

def generateKey (backendPath : String) (algorithm : SignatureAlgorithm) :
    Proc σ ProviderError NewKey :=
  match algorithm.nativeAlgorithm with
  | some native => (backend.createNamedPqcKey backendPath native).mapErr .backend
  | none => do
      let keyType ← check (orErr algorithm.keyTypeForSignature
        (.unsupported .vaultTransit "generate_key" algorithm.token))
      (backend.createNamedKey backendPath keyType).mapErr .backend

def generateSealingKey (algorithm : KemAlgorithm) : Proc σ ProviderError NewKey :=
  .fail (.unsupported .vaultTransit "generate_sealing_key" algorithm.token)

def sign (backendPath : String) (algorithm : SignatureAlgorithm) (message : Bytes) :
    Proc σ ProviderError Bytes :=
  match algorithm.nativeAlgorithm with
  | some native => (backend.signPqc backendPath message native).mapErr .backend
  | none => do
      let options ← check (orErr algorithm.signOptions
        (.unsupported .vaultTransit "sign" algorithm.token))
      (backend.signWithOptions backendPath message options).mapErr .backend

def verify (backendPath : String) (algorithm : SignatureAlgorithm) (message signature : Bytes) :
    Proc σ ProviderError Bool :=
  match algorithm.nativeAlgorithm with
  | some native => (backend.verifyPqc backendPath message signature native).mapErr .backend
  | none => do
      let options ← check (orErr algorithm.signOptions
        (.unsupported .vaultTransit "verify" algorithm.token))
      (backend.verifyWithOptions backendPath message signature options).mapErr .backend

end BackendCryptoProvider

/-! ### The local software provider -/

namespace LocalSoftwareProvider

variable {σ : Type} (prims : Primitives) (backend : Backend σ)

def providerVersion : String := "1"

def recordVersion : Nat := 1

def failed (op algorithm reason : String) : ProviderError :=
  .cryptoFailed .localSoftware op algorithm reason

def requireStorageKey (storageKey : Option String) (op algorithm : String) :
    Except ProviderError String :=
  orErr storageKey (failed op algorithm "software-custody key is missing its storage AEAD key")

def material (keyId backendPath : String) (storageKey : Option String) (op algorithm : String) :
    Proc σ ProviderError LocalSoftwareMaterial := do
  let storageKey ← check (requireStorageKey storageKey op algorithm)
  let kv ← (backend.kvGet backendPath none).mapErr .backend
  check <|
    (SoftwareCustodyKeyRecord.parseForLocalSoftware prims kv.value keyId algorithm providerVersion
      kv.version storageKey).mapError fun _ => failed op algorithm "malformed software-custody record"

def materializeSeed (material : LocalSoftwareMaterial) : Proc σ ProviderError Bytes :=
  (backend.decrypt material.storageKey material.ciphertext (some material.aad)).mapErr .backend

def publicKey (keyId backendPath : String) (storageKey : Option String) (algorithm : String) :
    Proc σ ProviderError Bytes := do
  let material ← material prims backend keyId backendPath storageKey "get_public_key" algorithm
  return material.publicKey

def custodyCatalog (keyId algorithmToken storageKey : String) : SoftwareCustodyCatalog :=
  ⟨keyId, algorithmToken, CryptoProviderId.localSoftware.token, providerVersion,
    CustodyMode.softwareEncrypted.token, storageKey⟩

def custodyRecord (keyId algorithmToken storageKey : String) (publicKey : Bytes)
    (envelope : CiphertextEnvelope) : SoftwareCustodyKeyRecord where
  schemaVersion := SoftwareCustodyKeyRecord.currentSchemaVersion
  keyId := keyId
  keyVersion := recordVersion
  publicKey := prims.b64Encode publicKey
  algorithm := algorithmToken
  provider := CryptoProviderId.localSoftware.token
  providerVersion := providerVersion
  custody := CustodyMode.softwareEncrypted.token
  encryptedPrivateKey :=
    { wrappingKey := storageKey
      algorithm := envelope.alg.token
      keyVersion := envelope.keyVersion
      nonce := prims.b64Encode envelope.nonce
      ciphertext := prims.b64Encode envelope.ciphertext }

/-- `seal_and_store`: seal the seed under the storage key, then write the record. -/
def sealAndStore (op keyId backendPath algorithmToken storageKey : String) (seed publicKey : Bytes) :
    Proc σ ProviderError NewKey := do
  let aad := (custodyCatalog keyId algorithmToken storageKey).aad recordVersion
  let envelope ← (backend.encrypt storageKey .aes256Gcm seed (some aad)).mapErr .backend
  let record := custodyRecord prims keyId algorithmToken storageKey publicKey envelope
  let bytes ← check (orErr (prims.recordToVec record)
    (failed op algorithmToken "software-custody record serialization failed"))
  let _ ← (backend.kvPut backendPath bytes).mapErr .backend
  return ⟨keyId, publicKey⟩

def generateKey (keyId backendPath : String) (algorithm : SignatureAlgorithm)
    (storageKey : Option String) (seed : FixedBytes mlDsaSeedLen) : Proc σ ProviderError NewKey := do
  let mlDsa ← check (orErr algorithm.mlDsaAlgorithm
    (.unsupported .localSoftware "generate_key" algorithm.token))
  let storageKey ← check (requireStorageKey storageKey "generate_key" mlDsa.token)
  let publicKey ← check (orErr (prims.mlDsaPublicFromSeed mlDsa seed.bytes)
    (failed "generate_key" mlDsa.token "ml-dsa key generation failed"))
  sealAndStore prims backend "generate_key" keyId backendPath mlDsa.token storageKey seed.bytes
    publicKey

def generateSealingKey (keyId backendPath : String) (kem : KemAlgorithm)
    (storageKey : Option String) (seed : FixedBytes mlKemSeedLen) : Proc σ ProviderError NewKey := do
  let storageKey ← check (requireStorageKey storageKey "generate_sealing_key" kem.token)
  let publicKey ← check (orErr (prims.mlKemPublicFromSeed kem seed.bytes)
    (failed "generate_sealing_key" kem.token "ml-kem key generation failed"))
  sealAndStore prims backend "generate_sealing_key" keyId backendPath kem.token storageKey
    seed.bytes publicKey

def sign (keyId backendPath : String) (algorithm : SignatureAlgorithm) (message : Bytes)
    (storageKey : Option String) : Proc σ ProviderError Bytes := do
  let mlDsa ← check (orErr algorithm.mlDsaAlgorithm
    (.unsupported .localSoftware "sign" algorithm.token))
  let material ← material prims backend keyId backendPath storageKey "sign" mlDsa.token
  let seed ← materializeSeed backend material
  check (orErr (prims.mlDsaSign mlDsa seed message)
    (failed "sign" mlDsa.token "ml-dsa signing failed"))

def verify (keyId backendPath : String) (algorithm : SignatureAlgorithm) (message signature : Bytes)
    (storageKey : Option String) : Proc σ ProviderError Bool := do
  let mlDsa ← check (orErr algorithm.mlDsaAlgorithm
    (.unsupported .localSoftware "verify" algorithm.token))
  let material ← material prims backend keyId backendPath storageKey "verify" mlDsa.token
  check (orErr (prims.mlDsaVerify mlDsa material.publicKey message signature)
    (failed "verify" mlDsa.token "malformed verification input"))

end LocalSoftwareProvider

end Basil
