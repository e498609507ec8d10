import Basil.Lib.Proc
import Basil.Routing

/-!
# The backend interface (`core/backend/mod.rs`, `basil-proto/src/types.rs`)

A method that the trait answers by default with `Unsupported` has that answer as its field's
default.
-/

namespace Basil

inductive KeyType where
  | ed25519
  | ed25519Nkey
  | rsa2048
  | ecdsaP256
  | ecdsaP384
  | ecdsaP521
  | mlDsa44
  | mlDsa65
  | mlDsa87
  | mlKem512
  | mlKem768
  | mlKem1024
  deriving DecidableEq

def KeyAlgorithm.fromWireKeyType : KeyType → KeyAlgorithm
  | .ed25519 => .ed25519
  | .ed25519Nkey => .ed25519Nkey
  | .rsa2048 => .rsa2048
  | .ecdsaP256 => .ecdsaP256
  | .ecdsaP384 => .ecdsaP384
  | .ecdsaP521 => .ecdsaP521
  | .mlDsa44 => .mlDsa44
  | .mlDsa65 => .mlDsa65
  | .mlDsa87 => .mlDsa87
  | .mlKem512 => .mlKem512
  | .mlKem768 => .mlKem768
  | .mlKem1024 => .mlKem1024

def KeyType.token (keyType : KeyType) : String := (KeyAlgorithm.fromWireKeyType keyType).token

inductive AeadAlgorithm where
  | aes256Gcm
  | chacha20Poly1305
  deriving DecidableEq

def AeadAlgorithm.token : AeadAlgorithm → String
  | aes256Gcm => "aes-256-gcm"
  | chacha20Poly1305 => "chacha20-poly1305"

structure CiphertextEnvelope where
  alg : AeadAlgorithm
  keyVersion : Nat
  nonce : Bytes
  ciphertext : Bytes
  deriving DecidableEq

inductive KeyMaterial where
  | ed25519Seed (seed : Bytes)
  | pkcs8Der (der : Bytes)
  deriving DecidableEq

structure NewKey where
  keyId : String
  publicKey : Bytes
  deriving DecidableEq

structure KvValue where
  value : Bytes
  version : Nat
  deriving DecidableEq

inductive NativeAlgorithm where
  | mlDsa44
  | mlDsa65
  | mlDsa87
  deriving DecidableEq

structure PublicKey where
  publicKey : Bytes
  keyType : KeyType
  version : Nat
  deriving DecidableEq

structure KeyMetadata where
  keyType : Option KeyType
  latestVersion : Nat
  deriving DecidableEq

inductive SignOptions where
  | default
  | rs256Pkcs1v15Sha256
  | es256
  | es384
  | es512
  deriving DecidableEq

def SignOptions.token : SignOptions → String
  | default => "default"
  | rs256Pkcs1v15Sha256 => "rs256_pkcs1v15_sha256"
  | es256 => "es256"
  | es384 => "es384"
  | es512 => "es512"

/-- The trait object a key is routed to. The nix-cache and PKI methods are records of their
own (`NixCacheBackend`, `PkiBackend`); AEAD creation is left out: no modelled request calls it. -/
structure Backend (σ : Type) where
  newKey : KeyType → Proc σ BackendError NewKey
  createNamedKey : String → KeyType → Proc σ BackendError NewKey :=
    fun _ _ => .fail (.unsupported "create_named_key")
  publicKey : String → Proc σ BackendError Bytes
  publicKeyWithMeta : String → Proc σ BackendError PublicKey :=
    fun _ => .fail (.unsupported "get_public_key")
  keyMetadata : String → Proc σ BackendError KeyMetadata :=
    fun _ => .fail (.unsupported "list")
  -- a backend that reports no version publishes its one key as version 1
  publicKeys : String → Proc σ BackendError (OrdMap Nat Bytes) := fun keyId => do
    let metadata ← Proc.attempt (keyMetadata keyId)
    let version ← Proc.check (match metadata with
      | .ok found => .ok found.latestVersion
      | .error (.unsupported _) => .ok 1
      | .error err => .error err)
    let key ← publicKey keyId
    return OrdMap.empty.insert version key
  importKey : String → KeyType → KeyMaterial → Proc σ BackendError NewKey :=
    fun _ _ _ => .fail (.unsupported "import")
  sign : String → Bytes → Proc σ BackendError Bytes
  signWithOptions : String → Bytes → SignOptions → Proc σ BackendError Bytes :=
    fun keyId message options =>
      match options with
      | .default => sign keyId message
      | other => .fail (.unsupported ("sign " ++ other.token))
  verify : String → Bytes → Bytes → Proc σ BackendError Bool
  verifyWithOptions : String → Bytes → Bytes → SignOptions → Proc σ BackendError Bool :=
    fun keyId message signature options =>
      match options with
      | .default => verify keyId message signature
      | other => .fail (.unsupported ("verify " ++ other.token))
  supportsNativeAlgorithm : NativeAlgorithm → Bool := fun _ => false
  createNamedPqcKey : String → NativeAlgorithm → Proc σ BackendError NewKey :=
    fun _ _ => .fail (.unsupported "create_named_pqc_key")
  signPqc : String → Bytes → NativeAlgorithm → Proc σ BackendError Bytes :=
    fun _ _ _ => .fail (.unsupported "sign_pqc")
  verifyPqc : String → Bytes → Bytes → NativeAlgorithm → Proc σ BackendError Bool :=
    fun _ _ _ _ => .fail (.unsupported "verify_pqc")
  encrypt : String → AeadAlgorithm → Bytes → Option Bytes → Proc σ BackendError CiphertextEnvelope :=
    fun _ _ _ _ => .fail (.unsupported "encrypt")
  decrypt : String → CiphertextEnvelope → Option Bytes → Proc σ BackendError Bytes :=
    fun _ _ _ => .fail (.unsupported "decrypt")
  rotate : String → Proc σ BackendError Nat :=
    fun _ => .fail (.unsupported "rotate")
  kvGet : String → Option Nat → Proc σ BackendError KvValue :=
    fun _ _ => .fail (.unsupported "get")
  kvGetSecret : String → Option Nat → Proc σ BackendError KvValue :=
    fun _ _ => .fail (.unsupported "kv_get_secret")
  kvPut : String → Bytes → Proc σ BackendError Nat :=
    fun _ _ => .fail (.unsupported "rotate")
  configureVersions : String → Option Nat → Option Nat → Proc σ BackendError Unit :=
    fun _ _ _ => .fail (.unsupported "configure_versions")

end Basil
