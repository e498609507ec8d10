import Basil.SealedBox
import Basil.Signing

/-!
# Encryption requests (`service/aead.rs`, `service/minting.rs`, `core/manager.rs`)

Each of the six requests measures its own payload against `max_encrypt_size`: the plaintext on the
way in, the ciphertext on the way back.
-/

namespace Basil

open Proc X25519Seal

structure SealEntropy where
  ephemeral : FixedBytes 32
  nonce : FixedBytes 12
  encapsulation : FixedBytes 32
  natsNonce : Option (FixedBytes 24)

/-! ### The crypto providers -/

structure ProviderEnvelope where
  kemAlgorithm : KemAlgorithm
  envelopeAlgorithm : EnvelopeAlgorithm
  keyVersion : Nat
  encapsulatedKey : Bytes
  nonce : Bytes
  ciphertext : Bytes
  deriving DecidableEq

namespace BackendCryptoProvider

variable {σ α : Type}

def wrapEnvelope (kem : KemAlgorithm) : Proc σ ProviderError α :=
  .fail (.unsupported .vaultTransit "wrap_envelope" kem.token)

def unwrapEnvelope (kem : KemAlgorithm) : Proc σ ProviderError α :=
  .fail (.unsupported .vaultTransit "unwrap_envelope" kem.token)

end BackendCryptoProvider

namespace LocalSoftwareProvider

variable {σ : Type} (C : SealCrypto) (prims : Primitives) (backend : Backend σ)

def custodySeed (keyId backendPath : String) (storageKey : Option String) (op algorithm : String) :
    Proc σ ProviderError (LocalSoftwareMaterial × Bytes) := do
  let material ← material prims backend keyId backendPath storageKey op algorithm
  let seed ← materializeSeed backend material
  return (material, seed)

def wrapEnvelope (keyId backendPath : String) (kem : KemAlgorithm) (alg : EnvelopeAlgorithm)
    (plaintext aad : Bytes) (storageKey : Option String) (entropy : SealEntropy) :
    Proc σ ProviderError ProviderEnvelope := do
  let (material, seed) ←
    custodySeed prims backend keyId backendPath storageKey "wrap_envelope" kem.token
  let sealedEnv ← check <|
    (MlKem.sealEnvelope C seed kem alg plaintext aad entropy.encapsulation entropy.nonce).mapError
      fun _ => failed "wrap_envelope" kem.token "ml-kem envelope seal failed"
  return ⟨kem, alg, material.keyVersion, sealedEnv.encapsulatedKey, sealedEnv.nonce.bytes,
    sealedEnv.ciphertext⟩

def unwrapEnvelope (keyId backendPath : String) (kem : KemAlgorithm) (alg : EnvelopeAlgorithm)
    (encapsulatedKey nonce ciphertext aad : Bytes) (storageKey : Option String) :
    Proc σ ProviderError Bytes := do
  let (_, seed) ←
    custodySeed prims backend keyId backendPath storageKey "unwrap_envelope" kem.token
  let env ← check <| (MlKem.envelopeFromParts kem alg encapsulatedKey nonce ciphertext).mapError
    fun _ => failed "unwrap_envelope" kem.token "malformed ml-kem envelope"
  check <| (MlKem.openEnvelope C seed env aad).mapError
    fun _ => failed "unwrap_envelope" kem.token "ml-kem envelope open failed"

end LocalSoftwareProvider

/-! ### The manager -/

def aeadKeyAlgorithm : Option KeyAlgorithm → Option AeadAlgorithm
  | some .aes256Gcm => some .aes256Gcm
  | some .chaCha20Poly1305 => some .chacha20Poly1305
  | _ => none

def requireAeadMatch (keyId : String) (keyType : Option KeyAlgorithm) (algorithm : AeadAlgorithm) :
    Except ManagerError Unit := do
  let actual ← orErr (aeadKeyAlgorithm keyType) (.algorithmMismatch keyId algorithm "non-aead")
  ensure (actual = algorithm) (.algorithmMismatch keyId algorithm actual.token)

def requireX25519SealingKey (keyId : String) (actual : Option KeyAlgorithm) :
    Except ManagerError Unit :=
  ensure (actual = some .x25519)
    (.kemAlgorithmMismatch keyId "x25519" ((actual.map KeyAlgorithm.token).getD "none"))

def sealingFailure : SealError → ManagerError
  | .openFailed => .sealingOpenFailed
  | .badKeyLength .. | .badNonceLength .. | .kdfFailed | .sealFailed => .sealingMalformed

def natsCurveError : Nats.NatsError → ManagerError
  | .xkeyOpenFailed => .sealingOpenFailed
  | _ => .sealingMalformed

namespace Manager

variable {σ : Type} (m : Manager σ) (C : SealCrypto)

def encrypt (keyId : String) (algorithm : AeadAlgorithm) (plaintext : Bytes) (aad : Option Bytes) :
    Proc σ ManagerError CiphertextEnvelope := do
  let routed ← m.route keyId
  check (requireClass "encrypt" keyId routed.entry.keyClass [.symmetric])
  check (requireAeadMatch keyId routed.entry.keyType algorithm)
  ((m.backend routed).encrypt routed.entry.path algorithm plaintext aad).mapErr .backend

def decrypt (keyId : String) (envelope : CiphertextEnvelope) (aad : Option Bytes) :
    Proc σ ManagerError Bytes := do
  let routed ← m.route keyId
  check (requireClass "decrypt" keyId routed.entry.keyClass [.symmetric])
  check (requireAeadMatch keyId routed.entry.keyType envelope.alg)
  ((m.backend routed).decrypt routed.entry.path envelope aad).mapErr .backend

def materializeSealingPrivate (keyId op : String) : Proc σ ManagerError (FixedBytes 32) := do
  let routed ← m.route keyId
  check (requireClass op keyId routed.entry.keyClass [.sealing])
  check (requireX25519SealingKey keyId routed.entry.keyType)
  let secret ← ((m.backend routed).kvGetSecret routed.entry.path none).mapErr .backend
  check ((privateFromSlice secret.value).mapError sealingFailure)

def wrapEnvelope (keyId : String) (plaintext aad : Bytes) (entropy : SealEntropy) :
    Proc σ ManagerError SealedEnvelope := do
  let routed ← m.route keyId
  check (requireClass "wrap_envelope" keyId routed.entry.keyClass [.sealing])
  check (requireX25519SealingKey keyId routed.entry.keyType)
  let publicBytes ← m.readPublicHalf keyId "wrap_envelope" [.sealing]
  let recipientPub ← check ((publicFromSlice publicBytes).mapError sealingFailure)
  check ((sealWithParts C recipientPub plaintext aad entropy.ephemeral
    entropy.nonce).mapError sealingFailure)

def unwrapEnvelope (keyId : String) (env : SealedEnvelope) (aad : Bytes) :
    Proc σ ManagerError Bytes := do
  let priv ← m.materializeSealingPrivate keyId "unwrap_envelope"
  check ((openEnvelope C priv env aad).mapError sealingFailure)

def encryptNatsCurve (keyId recipientPublicXkey : String) (plaintext : Bytes)
    (entropy : SealEntropy) : Proc σ ManagerError Bytes := do
  let priv ← m.materializeSealingPrivate keyId "encrypt_nats_curve"
  check ((Nats.sealNatsCurve C priv recipientPublicXkey plaintext entropy.natsNonce).mapError
    natsCurveError)

def decryptNatsCurve (keyId senderPublicXkey : String) (ciphertext : Bytes) :
    Proc σ ManagerError Bytes := do
  let priv ← m.materializeSealingPrivate keyId "decrypt_nats_curve"
  check ((Nats.openNatsCurve C priv senderPublicXkey ciphertext).mapError natsCurveError)

def providerWrapEnvelope (keyId : String) (kem : KemAlgorithm) (alg : EnvelopeAlgorithm)
    (plaintext aad : Bytes) (gate : Bool) (entropy : SealEntropy) :
    Proc σ ManagerError (ProviderEnvelope × ProviderDispatch) := do
  let routed ← m.route keyId
  check (requireClass "wrap_envelope" keyId routed.entry.keyClass [.sealing])
  check (requireMlKemSealingKey keyId routed.entry.keyType kem)
  m.dispatch routed kem.nativeAlgorithm gate "wrap_envelope" kem.token fun
    | .vaultTransit => BackendCryptoProvider.wrapEnvelope kem
    | .localSoftware =>
        LocalSoftwareProvider.wrapEnvelope C m.prims (m.backend routed) keyId routed.entry.path kem
          alg plaintext aad routed.storageKey entropy

def providerUnwrapEnvelope (keyId : String) (kem : KemAlgorithm) (alg : EnvelopeAlgorithm)
    (encapsulatedKey nonce ciphertext aad : Bytes) (gate : Bool) :
    Proc σ ManagerError (Bytes × ProviderDispatch) := do
  let routed ← m.route keyId
  check (requireClass "unwrap_envelope" keyId routed.entry.keyClass [.sealing])
  check (requireMlKemSealingKey keyId routed.entry.keyType kem)
  m.dispatch routed kem.nativeAlgorithm gate "unwrap_envelope" kem.token fun
    | .vaultTransit => BackendCryptoProvider.unwrapEnvelope kem
    | .localSoftware =>
        LocalSoftwareProvider.unwrapEnvelope C m.prims (m.backend routed) keyId routed.entry.path kem
          alg encapsulatedKey nonce ciphertext aad routed.storageKey

end Manager

/-! ### Wire values (`service/shared.rs`) -/

def wireAeadAlgorithm (value : Int) : Option (Option AeadAlgorithm) :=
  match value with
  | 0 => some none
  | 1 => some (some .chacha20Poly1305)
  | 2 => some (some .aes256Gcm)
  | _ => none

def aeadAlgorithm (value : Int) (op : String) : Except Status AeadAlgorithm := do
  let wire ← orErr (wireAeadAlgorithm value) (invalidRequest op "unknown AEAD algorithm")
  orErr wire (invalidRequest op "missing AEAD algorithm")

def protoAeadAlgorithm : AeadAlgorithm → Int
  | .chacha20Poly1305 => 1
  | .aes256Gcm => 2

inductive SupportedKem where
  | x25519
  | mlKem512
  | mlKem768
  | mlKem1024
  deriving DecidableEq

def SupportedKem.mlKemProviderAlgorithm : SupportedKem → Option KemAlgorithm
  | mlKem512 => some .mlKem512
  | mlKem768 => some .mlKem768
  | mlKem1024 => some .mlKem1024
  | x25519 => none

def wireKemAlgorithm (value : Int) : Option (Option SupportedKem) :=
  match value with
  | 0 => some none
  | 1 => some (some .mlKem512)
  | 2 => some (some .mlKem768)
  | 3 => some (some .mlKem1024)
  | 4 => some (some .x25519)
  | _ => none

def ensureSupportedKemAlgorithm (value : Int) (op : String) : Except Status SupportedKem := do
  let wire ← orErr (wireKemAlgorithm value) (invalidRequest op "unknown KEM algorithm")
  orErr wire (invalidRequest op "missing KEM algorithm")

def wireEnvelopeAlgorithm (value : Int) : Option (Option EnvelopeAlgorithm) :=
  match value with
  | 0 => some none
  | 1 => some (some .aes256Gcm)
  | 2 => some (some .chacha20Poly1305)
  | _ => none

def providerEnvelopeAlgorithm (value : Int) (op : String) : Except Status EnvelopeAlgorithm := do
  let wire ← orErr (wireEnvelopeAlgorithm value) (invalidRequest op "unknown envelope algorithm")
  orErr wire (invalidRequest op "missing envelope algorithm")

def ensureSupportedEnvelopeAlgorithm (value : Int) (op : String) : Except Status Unit := do
  let _ ← providerEnvelopeAlgorithm value op
  return ()

/-! ### Requests -/

structure WireCiphertextEnvelope where
  alg : Int
  keyVersion : Nat
  nonce : Bytes
  ciphertext : Bytes
  deriving DecidableEq

def ciphertextEnvelope (env : CiphertextEnvelope) : WireCiphertextEnvelope :=
  ⟨protoAeadAlgorithm env.alg, env.keyVersion, env.nonce, env.ciphertext⟩

def basilCiphertextEnvelope (env : WireCiphertextEnvelope) (op : String) :
    Except Status CiphertextEnvelope := do
  let alg ← aeadAlgorithm env.alg op
  return ⟨alg, env.keyVersion, env.nonce, env.ciphertext⟩

theorem basilCiphertextEnvelope_ciphertextEnvelope (env : CiphertextEnvelope) (op : String) :
    basilCiphertextEnvelope (ciphertextEnvelope env) op = .ok env := by
  obtain ⟨alg⟩ := env
  cases alg <;> rfl

structure KemEnvelope where
  kemAlgorithm : Int
  envelopeAlgorithm : Int
  keyVersion : Nat
  encapsulatedKey : Bytes
  nonce : Bytes
  ciphertext : Bytes
  deriving DecidableEq

structure EncryptRequest where
  keyId : String
  algorithm : Int
  plaintext : Bytes
  aad : Option Bytes
  deriving DecidableEq

structure DecryptRequest where
  keyId : String
  envelope : Option WireCiphertextEnvelope
  aad : Option Bytes
  deriving DecidableEq

structure WrapEnvelopeRequest where
  keyId : String
  kemAlgorithm : Int
  envelopeAlgorithm : Int
  plaintext : Bytes
  aad : Option Bytes
  deriving DecidableEq

structure UnwrapEnvelopeRequest where
  keyId : String
  envelope : Option KemEnvelope
  aad : Option Bytes
  deriving DecidableEq

structure EncryptNatsCurveRequest where
  keyId : String
  recipientPublicXkey : String
  plaintext : Bytes
  deriving DecidableEq

structure DecryptNatsCurveRequest where
  keyId : String
  senderPublicXkey : String
  ciphertext : Bytes
  deriving DecidableEq

namespace Aead

variable {σ : Type} (m : Manager σ) (C : SealCrypto) (limits : BrokerLimits)

def encrypt (g : Generation) (ctx : RequestContext) (body : EncryptRequest) :
    Proc σ Status WireCiphertextEnvelope := do
  let _ ← check (authorizeInGeneration g ctx .encrypt body.keyId)
  check (ensure (body.plaintext.length ≤ limits.maxEncryptSize)
    (payloadTooLarge "encrypt" "encrypt payload exceeds configured cap"))
  let alg ← check (aeadAlgorithm body.algorithm "encrypt")
  let env ← (m.encrypt body.keyId alg body.plaintext body.aad).mapErr (managerStatus "encrypt")
  return ciphertextEnvelope env

def decrypt (g : Generation) (ctx : RequestContext) (body : DecryptRequest) :
    Proc σ Status Bytes := do
  let _ ← check (authorizeInGeneration g ctx .decrypt body.keyId)
  let wire ← check (orErr body.envelope (invalidRequest "decrypt" "missing ciphertext envelope"))
  let env ← check (basilCiphertextEnvelope wire "decrypt")
  check (ensure (env.ciphertext.length ≤ limits.maxEncryptSize)
    (payloadTooLarge "decrypt" "decrypt payload exceeds configured cap"))
  (m.decrypt body.keyId env body.aad).mapErr (managerStatus "decrypt")

/-! The gate of an ML-KEM request is decided in the generation loaded for it. -/

def envelopeTooLarge (op : String) : Status :=
  payloadTooLarge op "envelope payload exceeds configured cap"

def wrapAuthorize (g : Generation) (ctx : RequestContext) (body : WrapEnvelopeRequest) :
    Except Status (AuthenticatedActor × SupportedKem) := do
  let actor ← authorizeInGeneration g ctx .encrypt body.keyId
  let _ ← requireUnixUid actor "encrypt"
  ensure (body.plaintext.length ≤ limits.maxEncryptSize) (envelopeTooLarge "wrap_envelope")
  let kem ← ensureSupportedKemAlgorithm body.kemAlgorithm "wrap_envelope"
  ensureSupportedEnvelopeAlgorithm body.envelopeAlgorithm "wrap_envelope"
  return (actor, kem)

def wrapServe (gate : Bool) (entropy : SealEntropy) (body : WrapEnvelopeRequest) (kem : SupportedKem) :
    Proc σ Status KemEnvelope :=
  match kem.mlKemProviderAlgorithm with
  | none => do
      let env ← (m.wrapEnvelope C body.keyId body.plaintext (body.aad.getD []) entropy).mapErr
        (managerStatus "wrap_envelope")
      return ⟨body.kemAlgorithm, body.envelopeAlgorithm, 0, env.encapsulatedKey.bytes,
        env.nonce.bytes, env.ciphertext⟩
  | some kem => do
      let alg ← check (providerEnvelopeAlgorithm body.envelopeAlgorithm "wrap_envelope")
      let (env, _) ← (m.providerWrapEnvelope C body.keyId kem alg body.plaintext (body.aad.getD [])
        gate entropy).mapErr (managerStatus "wrap_envelope")
      return ⟨body.kemAlgorithm, body.envelopeAlgorithm, env.keyVersion, env.encapsulatedKey,
        env.nonce, env.ciphertext⟩

def wrapEnvelope (authGen gateGen : Generation) (ctx : RequestContext) (entropy : SealEntropy)
    (body : WrapEnvelopeRequest) : Proc σ Status KemEnvelope := do
  let (actor, kem) ← check (wrapAuthorize limits authGen ctx body)
  wrapServe m C (providerGate gateGen actor body.keyId) entropy body kem

def unwrapAuthorize (g : Generation) (ctx : RequestContext) (body : UnwrapEnvelopeRequest) :
    Except Status (AuthenticatedActor × KemEnvelope × SupportedKem) := do
  let actor ← authorizeInGeneration g ctx .decrypt body.keyId
  let _ ← requireUnixUid actor "decrypt"
  let env ← orErr body.envelope (invalidRequest "unwrap_envelope" "missing KEM envelope")
  let kem ← ensureSupportedKemAlgorithm env.kemAlgorithm "unwrap_envelope"
  ensureSupportedEnvelopeAlgorithm env.envelopeAlgorithm "unwrap_envelope"
  ensure (env.ciphertext.length ≤ limits.maxEncryptSize) (envelopeTooLarge "unwrap_envelope")
  return (actor, env, kem)

def sealEnvelopeFromWire (env : KemEnvelope) : Except Status SealedEnvelope :=
  (envelopeFromParts env.encapsulatedKey env.nonce env.ciphertext).mapError fun _ =>
    invalidRequest "unwrap_envelope" "malformed KEM envelope (bad encapsulated_key or nonce length)"

def unwrapServe (gate : Bool) (body : UnwrapEnvelopeRequest) (env : KemEnvelope) (kem : SupportedKem) :
    Proc σ Status Bytes :=
  match kem.mlKemProviderAlgorithm with
  | none => do
      let env ← check (sealEnvelopeFromWire env)
      (m.unwrapEnvelope C body.keyId env (body.aad.getD [])).mapErr (managerStatus "unwrap_envelope")
  | some kem => do
      let alg ← check (providerEnvelopeAlgorithm env.envelopeAlgorithm "unwrap_envelope")
      let (plaintext, _) ← (m.providerUnwrapEnvelope C body.keyId kem alg env.encapsulatedKey env.nonce
        env.ciphertext (body.aad.getD []) gate).mapErr (managerStatus "unwrap_envelope")
      return plaintext

def unwrapEnvelope (authGen gateGen : Generation) (ctx : RequestContext)
    (body : UnwrapEnvelopeRequest) : Proc σ Status Bytes := do
  let (actor, env, kem) ← check (unwrapAuthorize limits authGen ctx body)
  unwrapServe m C (providerGate gateGen actor body.keyId) body env kem

def encryptNatsCurve (g : Generation) (ctx : RequestContext) (entropy : SealEntropy)
    (body : EncryptNatsCurveRequest) : Proc σ Status Bytes := do
  let _ ← check (authorizeInGeneration g ctx .encryptNatsCurve body.keyId)
  check (ensure (body.plaintext.length ≤ limits.maxEncryptSize)
    (payloadTooLarge "encrypt_nats_curve" "encrypt payload exceeds configured cap"))
  (m.encryptNatsCurve C body.keyId body.recipientPublicXkey body.plaintext entropy).mapErr
    (managerStatus "encrypt_nats_curve")

def decryptNatsCurve (g : Generation) (ctx : RequestContext) (body : DecryptNatsCurveRequest) :
    Proc σ Status Bytes := do
  let _ ← check (authorizeInGeneration g ctx .decryptNatsCurve body.keyId)
  check (ensure (body.ciphertext.length ≤ limits.maxEncryptSize)
    (payloadTooLarge "decrypt_nats_curve" "decrypt payload exceeds configured cap"))
  (m.decryptNatsCurve C body.keyId body.senderPublicXkey body.ciphertext).mapErr
    (managerStatus "decrypt_nats_curve")

end Aead

end Basil
