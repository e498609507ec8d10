import Basil.Backend

/-!
# The key-store backend (`core/backend/keystore.rs`, `basil-keystore-backend/src/lib.rs`)

The store's own failures (I/O, a rekey in progress) are left out.
-/

namespace Basil

structure Keystore where
  entries : String → Option Bytes
  draws : Nat

structure KeystoreCrypto where
  uuidSimple : Nat → String
  keyMaterial : Nat → FixedBytes 32
  nonce : Nat → FixedBytes 12
  ed25519Public : FixedBytes 32 → FixedBytes 32
  ed25519Sign : FixedBytes 32 → Bytes → FixedBytes 64
  ed25519Verify : FixedBytes 32 → Bytes → FixedBytes 64 → Bool
  aeadEncrypt : AeadAlgorithm → FixedBytes 32 → FixedBytes 12 → Bytes → Bytes → Option Bytes
  aeadDecrypt : AeadAlgorithm → FixedBytes 32 → FixedBytes 12 → Bytes → Bytes → Option Bytes

def hyphenated (simple : String) : String :=
  let cs := simple.toList
  String.ofList (cs.take 8 ++ '-' :: (cs.drop 8).take 4 ++ '-' :: (cs.drop 12).take 4 ++
    '-' :: (cs.drop 16).take 4 ++ '-' :: cs.drop 20)

namespace Keystore

inductive CryptoError where
  | badKeyLength (expected actual : Nat)
  | badSignatureLength (expected actual : Nat)
  | badNonceLength (expected actual : Nat)
  | encryptFailed
  | decryptFailed
  deriving DecidableEq

def cryptoError : CryptoError → BackendError
  | .decryptFailed => .decryptFailed
  | .badKeyLength expected actual => .backend ("invalid key length: expected " ++
      toString expected ++ " bytes, got " ++ toString actual)
  | .badSignatureLength expected actual => .backend ("invalid signature length: expected " ++
      toString expected ++ " bytes, got " ++ toString actual)
  | .badNonceLength expected actual => .backend ("invalid nonce length: expected " ++
      toString expected ++ " bytes, got " ++ toString actual)
  | .encryptFailed => .backend "encrypt failed"

def keystoreVersion : Nat := 1

def keyFromSlice (bytes : Bytes) : Except CryptoError (FixedBytes 32) :=
  orErr (FixedBytes.ofBytes? 32 bytes) (.badKeyLength 32 bytes.length)

def algorithmByte : AeadAlgorithm → UInt8
  | .chacha20Poly1305 => 1
  | .aes256Gcm => 2

def envelopeAad (algorithm : AeadAlgorithm) (keyVersion : Nat) (externalAad : Option Bytes) : Bytes :=
  "basil-keystore-aead-v1".toUTF8.toList ++ [algorithmByte algorithm] ++
    (beBytes 4 keyVersion).reverse ++ externalAad.getD []

variable (C : KeystoreCrypto)

def publicEd25519 (seed : Bytes) : Except CryptoError Bytes := do
  let seed ← keyFromSlice seed
  return (C.ed25519Public seed).bytes

def signEd25519 (seed message : Bytes) : Except CryptoError Bytes := do
  let seed ← keyFromSlice seed
  return (C.ed25519Sign seed message).bytes

def verifyEd25519 (publicKey message signature : Bytes) : Except CryptoError Bool := do
  let publicKey ← keyFromSlice publicKey
  let signature ← orErr (FixedBytes.ofBytes? 64 signature) (.badSignatureLength 64 signature.length)
  return C.ed25519Verify publicKey message signature

def encryptAead (nonce : FixedBytes 12) (key : Bytes) (algorithm : AeadAlgorithm) (plaintext : Bytes)
    (aad : Option Bytes) : Except CryptoError CiphertextEnvelope := do
  let key ← keyFromSlice key
  let ciphertext ← orErr (C.aeadEncrypt algorithm key nonce
    (envelopeAad algorithm keystoreVersion aad) plaintext) .encryptFailed
  return ⟨algorithm, keystoreVersion, nonce.bytes, ciphertext⟩

def decryptAead (key : Bytes) (envelope : CiphertextEnvelope) (aad : Option Bytes) :
    Except CryptoError Bytes := do
  let key ← keyFromSlice key
  let nonce ← orErr (FixedBytes.ofBytes? 12 envelope.nonce) (.badNonceLength 12 envelope.nonce.length)
  orErr (C.aeadDecrypt envelope.alg key nonce (envelopeAad envelope.alg envelope.keyVersion aad)
    envelope.ciphertext) .decryptFailed

/-! ### The adapter -/

def getSecret (keyId : String) : Proc Keystore BackendError Bytes :=
  .ofFun fun s => (orErr (s.entries keyId) (.keyNotFound keyId), s)

def put (keyId : String) (value : Bytes) : Proc Keystore BackendError Unit :=
  .ofFun fun s => (.ok (), { s with entries := Function.update s.entries keyId (some value) })

def draw : Proc Keystore BackendError Nat :=
  .ofFun fun s => (.ok s.draws, { s with draws := s.draws + 1 })

def crypto {α : Type} (x : Except CryptoError α) : Proc Keystore BackendError α :=
  .check (x.mapError cryptoError)

def createNamedKey (keyId : String) (keyType : KeyType) : Proc Keystore BackendError NewKey := do
  Proc.check (ensure (keyType = .ed25519) (.unsupportedKeyType keyType.token))
  let d ← draw
  let seed := (C.keyMaterial d).bytes
  put keyId seed
  let publicKey ← crypto (publicEd25519 C seed)
  return ⟨keyId, publicKey⟩

def newKey (keyType : KeyType) : Proc Keystore BackendError NewKey := do
  let d ← draw
  createNamedKey C (hyphenated (C.uuidSimple d)) keyType

def publicKey (keyId : String) : Proc Keystore BackendError Bytes := do
  let seed ← getSecret keyId
  crypto (publicEd25519 C seed)

def importKey (keyId : String) (keyType : KeyType) (material : KeyMaterial) :
    Proc Keystore BackendError NewKey := do
  Proc.check (ensure (keyType = .ed25519) (.unsupportedKeyType keyType.token))
  match material with
  | .ed25519Seed seed => do
      let publicKey ← crypto (publicEd25519 C seed)
      put keyId seed
      return ⟨keyId, publicKey⟩
  | .pkcs8Der _ => .fail (.unsupported "import material")

def kvGet (keyId : String) (version : Option Nat) : Proc Keystore BackendError KvValue := do
  Proc.check (ensure (version.getD keystoreVersion = keystoreVersion) (.keyNotFound keyId))
  let value ← getSecret keyId
  return ⟨value, keystoreVersion⟩

def backend : Backend Keystore where
  newKey := newKey C
  createNamedKey := createNamedKey C
  publicKey := publicKey C
  publicKeyWithMeta := fun keyId => do
    let publicKey ← publicKey C keyId
    return ⟨publicKey, .ed25519, keystoreVersion⟩
  keyMetadata := fun keyId => do
    let _ ← getSecret keyId
    return ⟨none, keystoreVersion⟩
  importKey := importKey C
  sign := fun keyId message => do
    let seed ← getSecret keyId
    crypto (signEd25519 C seed message)
  verify := fun keyId message signature => do
    let publicKey ← publicKey C keyId
    crypto (verifyEd25519 C publicKey message signature)
  encrypt := fun keyId algorithm plaintext aad => do
    let key ← getSecret keyId
    let d ← draw
    crypto (encryptAead C (C.nonce d) key algorithm plaintext aad)
  decrypt := fun keyId envelope aad => do
    let key ← getSecret keyId
    crypto (decryptAead C key envelope aad)
  kvGet := kvGet
  kvGetSecret := kvGet
  kvPut := fun keyId value => do
    put keyId value
    return keystoreVersion

end Keystore

end Basil
