import Basil.Manager

/-!
# Nix binary-cache keys (`core/manager.rs`)

The identity is the one of the generation that the caller pinned; the manager's own entry fixes
its name and version.
-/

namespace Basil

open Proc

structure NixCacheKeyPosture where
  publicKey : FixedBytes 32
  keyType : KeyType
  latestVersion : Nat
  minDecryptionVersion : Nat
  derived : Bool
  exportable : Bool
  allowPlaintextBackup : Bool
  deletionAllowed : Bool
  autoRotationDisabled : Bool
  deriving DecidableEq

structure NixCacheBackendSignature where
  backendVersion : Nat
  signature : FixedBytes 64
  deriving DecidableEq

structure NixCacheBackend (σ : Type) where
  createNixCacheKey : String → Proc σ BackendError Unit :=
    fun _ => .fail (.unsupported "create_nix_cache_key")
  nixCacheKeyPosture : String → Proc σ BackendError NixCacheKeyPosture :=
    fun _ => .fail (.unsupported "nix_cache_key_posture")
  signNixCacheFingerprint : String → Bytes → Proc σ BackendError NixCacheBackendSignature :=
    fun _ _ => .fail (.unsupported "sign_nix_cache_fingerprint")

inductive NixCacheEnrollmentDisposition where
  | created
  | existing
  deriving DecidableEq

structure NixCacheEnrollment where
  keyName : String
  publicKey : FixedBytes 32
  backendVersion : Nat
  disposition : NixCacheEnrollmentDisposition
  deriving DecidableEq

structure NixCacheDescription where
  keyName : String
  publicKey : FixedBytes 32
  backendVersion : Nat
  deriving DecidableEq

structure NixCacheSignature where
  identity : NixCacheDescription
  signature : FixedBytes 64
  deriving DecidableEq

/-! ### Checks -/

def validateNixCacheRoute (keyId : String) (routed : Routed) (backendVersion : Nat) :
    Except ManagerError Unit := do
  ensure (routed.backendRef.kind = .vault) (.nixCacheEnrollment keyId
    "v1 supports only Vault-compatible custody, not KMS or local key stores")
  ensure (routed.entry.keyClass = .asymmetric)
    (.nixCacheEnrollment keyId "catalog key is not asymmetric")
  ensure (routed.engine = .transit)
    (.nixCacheEnrollment keyId "catalog key does not use the transit engine")
  ensure (routed.entry.keyType = some .ed25519)
    (.nixCacheEnrollment keyId "catalog key type is not Ed25519")
  ensure (backendVersion = 1) (.nixCacheEnrollment keyId "catalog backend version is not one")
  ensure (routed.entry.path ≠ "") (.nixCacheEnrollment keyId "catalog transit path is empty")

def validateNixCachePosture (keyId : String) (posture : NixCacheKeyPosture) :
    Except ManagerError Unit := do
  ensure (posture.keyType = .ed25519)
    (.nixCacheEnrollment keyId "backend key type is not Ed25519")
  ensure (posture.latestVersion = 1) (.nixCacheEnrollment keyId
    "backend latest version is not one; in-place rotation is forbidden")
  ensure (posture.minDecryptionVersion = 1)
    (.nixCacheEnrollment keyId "backend minimum version is not one")
  ensure (posture.derived = false) (.nixCacheEnrollment keyId "backend key derivation is enabled")
  ensure (posture.exportable = false)
    (.nixCacheEnrollment keyId "backend private-key export is enabled")
  ensure (posture.allowPlaintextBackup = false)
    (.nixCacheEnrollment keyId "backend plaintext backup is enabled")
  ensure (posture.deletionAllowed = false)
    (.nixCacheEnrollment keyId "backend key deletion is enabled")
  ensure (posture.autoRotationDisabled = true)
    (.nixCacheEnrollment keyId "backend automatic rotation is enabled")

def validateNixCachePin (keyId : String) (active : NixCacheIdentity) (posture : NixCacheKeyPosture) :
    Except ManagerError Unit := do
  ensure (posture.latestVersion = active.backendVersion)
    (.nixCacheEnrollment keyId "backend version does not match the enrolled catalog pin")
  ensure (active.publicKey = some posture.publicKey)
    (.nixCacheEnrollment keyId "backend public key does not match the enrolled catalog pin")

def requireRoutedIdentity (keyId : String) (active : NixCacheIdentity) (routed : Routed) :
    Except ManagerError Unit := do
  let identity ← orErr routed.entry.nixCache
    (.nixCacheEnrollment keyId "catalog key has no nixCache identity")
  ensure (active.keyName = identity.keyName ∧ active.backendVersion = identity.backendVersion)
    (.nixCacheEnrollment keyId
      "active-generation identity does not match the immutable routed identity")

def requirePinnedState (keyId : String) (active : NixCacheIdentity) : Except ManagerError Unit :=
  match active.state, active.publicKey with
  | .pending, none | .enrolled, some _ => .ok ()
  | .pending, some _ =>
      .error (.nixCacheEnrollment keyId "pending identity unexpectedly carries a public-key pin")
  | .enrolled, none => .error (.nixCacheEnrollment keyId "enrolled identity has no public-key pin")

namespace Manager

variable {σ : Type} (m : Manager σ) (nixCacheOf : String → NixCacheBackend σ)

/-! ### Operations -/

def ensureNixCacheKey (keyId : String) (active : NixCacheIdentity) (backend : NixCacheBackend σ)
    (path : String) :
    Proc σ ManagerError (NixCacheKeyPosture × NixCacheEnrollmentDisposition) := do
  let found ← attempt (backend.nixCacheKeyPosture path)
  match found with
  | .ok posture => return (posture, .existing)
  | .error (.keyNotFound _) =>
    if active.state = .pending then
      (backend.createNixCacheKey path).mapErr .backend
      let posture ← (backend.nixCacheKeyPosture path).mapErr .backend
      return (posture, .created)
    else .fail (.nixCacheEnrollment keyId
      "enrolled backend material is missing and must not be recreated")
  | .error err => .fail (.backend err)

def enrollNixCacheKey (keyId : String) (active : NixCacheIdentity) :
    Proc σ ManagerError NixCacheEnrollment := do
  let routed ← m.route keyId
  check (requireRoutedIdentity keyId active routed)
  check (requirePinnedState keyId active)
  check (validateNixCacheRoute keyId routed active.backendVersion)
  let (posture, disposition) ← ensureNixCacheKey keyId active
    (nixCacheOf routed.entry.backend) routed.entry.path
  check (validateNixCachePosture keyId posture)
  check (ensure (active.state = .enrolled → active.publicKey = some posture.publicKey)
    (.nixCacheEnrollment keyId "backend public key does not match the enrolled catalog pin"))
  return ⟨active.keyName, posture.publicKey, posture.latestVersion, disposition⟩

def resolveEnrolledNixCacheKey (keyId : String) (active : NixCacheIdentity) :
    Except ManagerError Routed := do
  ensure (active.state = .enrolled ∧ active.publicKey.isSome = true) (.nixCacheEnrollment keyId
    "operation requires an enrolled identity with a public-key pin")
  let routed ← (m.resolve keyId).mapError .resolve
  requireRoutedIdentity keyId active routed
  validateNixCacheRoute keyId routed active.backendVersion
  return routed

def checkedPosture (keyId : String) (active : NixCacheIdentity) (routed : Routed) :
    Proc σ ManagerError NixCacheKeyPosture := do
  let posture ← ((nixCacheOf routed.entry.backend).nixCacheKeyPosture routed.entry.path).mapErr
    .backend
  check (validateNixCachePosture keyId posture)
  check (validateNixCachePin keyId active posture)
  return posture

def describeNixCacheKey (keyId : String) (active : NixCacheIdentity) :
    Proc σ ManagerError NixCacheDescription := do
  let routed ← check (m.resolveEnrolledNixCacheKey keyId active)
  let posture ← checkedPosture nixCacheOf keyId active routed
  return ⟨active.keyName, posture.publicKey, posture.latestVersion⟩

/-- The posture is read before and after the signature, which is then verified here. -/
def signNixCacheFingerprint (keyId : String) (active : NixCacheIdentity) (fingerprint : Bytes) :
    Proc σ ManagerError NixCacheSignature := do
  let routed ← check (m.resolveEnrolledNixCacheKey keyId active)
  let before ← checkedPosture nixCacheOf keyId active routed
  let signed ← ((nixCacheOf routed.entry.backend).signNixCacheFingerprint routed.entry.path
    fingerprint).mapErr .backend
  check (ensure (signed.backendVersion = active.backendVersion) (.nixCacheEnrollment keyId
    "signature backend version does not match the enrolled catalog pin"))
  let after ← checkedPosture nixCacheOf keyId active routed
  check (ensure (before = after)
    (.nixCacheEnrollment keyId "backend posture changed while signing"))
  let publicKey ← check (orErr active.publicKey
    (.nixCacheEnrollment keyId "enrolled identity has no public-key pin"))
  check (ensure (m.prims.ed25519Verify publicKey fingerprint signed.signature = true)
    (.nixCacheEnrollment keyId "returned signature does not verify against the enrolled public key"))
  return ⟨⟨active.keyName, publicKey, after.latestVersion⟩, signed.signature⟩

end Manager

end Basil
