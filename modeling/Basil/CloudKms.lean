import Basil.Lib.Machine
import Basil.KmsCommon
import Basil.Provider

/-!
# The cloud key-management backends (`core/backend/aws_kms.rs`, `core/backend/gcp_kms.rs`)

The SDK clients are procedures over the provider's state.
-/

namespace Basil

open Proc

def assignedId (uuidSimple : String) : String := "sv-" ++ uuidSimple

/-! ### AWS -/

inductive AwsKeySpec where
  | eccNistEdwards25519
  | eccNistP256
  | eccNistP384
  | eccNistP521
  | other (name : String)
  deriving DecidableEq

inductive AwsSigningAlgorithm where
  | ed25519Sha512
  | ecdsaSha256
  | ecdsaSha384
  | ecdsaSha512
  deriving DecidableEq

inductive AwsMessageType where
  | raw
  | digest
  deriving DecidableEq

inductive AwsError where
  | notFound
  | accessDenied
  | invalidSignature
  | invalidCiphertext
  | other
  deriving DecidableEq

structure AwsClient (σ : Type) where
  uuidSimple : Proc σ BackendError String
  createKey : AwsKeySpec → String → Proc σ AwsError (Option String)
  createAlias : String → String → Proc σ AwsError Unit
  getPublicKey : String → Proc σ AwsError (Option Bytes × Option AwsKeySpec)
  describeKey : String → Proc σ AwsError (Option AwsKeySpec)
  sign : String → Bytes → AwsMessageType → AwsSigningAlgorithm → Proc σ AwsError (Option Bytes)
  verify : String → Bytes → AwsMessageType → Bytes → AwsSigningAlgorithm → Proc σ AwsError Bool
  encrypt : String → Bytes → Option (String × String) → Proc σ AwsError (Option Bytes)
  decrypt : String → Bytes → Option (String × String) → Proc σ AwsError (Option Bytes)

namespace AwsKms

def provisionRetries : Nat := 5

def mapKmsErr (keyId action : String) : AwsError → BackendError
  | .notFound => .keyNotFound keyId
  | .accessDenied => .backend ("aws-kms " ++ action ++ " denied for `" ++ keyId ++
      "`: the broker's IAM identity is not authorized for kms:" ++ action ++
      ". Add it to the broker's IAM policy")
  | .invalidSignature | .invalidCiphertext | .other =>
      .backend ("aws-kms " ++ action ++ " failed for `" ++ keyId ++ "`")

def looksLikeUuid (keyId : String) : Bool :=
  keyId.utf8ByteSize = 36 && keyId.toList.all fun c =>
    c.isDigit || ('a' ≤ c && c ≤ 'f') || ('A' ≤ c && c ≤ 'F') || c == '-'

variable {σ : Type} (prims : KmsPrimitives) (client : AwsClient σ)

def awsGeneratedAlias (keyId : String) : String :=
  let slug := keyId.toList.map fun c =>
    if c.isAlphanum || c == '_' || c == '-' || c == '/' then c else '_'
  let suffix := (prims.b64UrlNoPad (prims.sha256 keyId.toUTF8.toList)).toList.take 12
  "alias/basil/" ++ String.ofList slug ++ "-" ++ String.ofList suffix

def awsKeyRef (keyId : String) : String :=
  if (Text.stripLead "alias/" keyId).isSome || (Text.stripLead "arn:" keyId).isSome ||
      looksLikeUuid keyId then keyId
  else awsGeneratedAlias prims keyId

def awsKeySpec (keyType : KeyType) : Except BackendError AwsKeySpec :=
  match keyType with
  | .ed25519 | .ed25519Nkey => .ok .eccNistEdwards25519
  | .ecdsaP256 => .ok .eccNistP256
  | .ecdsaP384 => .ok .eccNistP384
  | .ecdsaP521 => .ok .eccNistP521
  | _ => .error (.unsupportedKeyType keyType.token)

def awsSigningAlgorithm : SignOptions → Except BackendError AwsSigningAlgorithm
  | .es256 => .ok .ecdsaSha256
  | .es384 => .ok .ecdsaSha384
  | .es512 => .ok .ecdsaSha512
  | .default | .rs256Pkcs1v15Sha256 => .error (.unsupported "aws-kms ecdsa signing algorithm")

def keyTypeFromAwsKeySpec : Option AwsKeySpec → Except BackendError KeyType
  | some .eccNistEdwards25519 => .ok .ed25519
  | some .eccNistP256 => .ok .ecdsaP256
  | some .eccNistP384 => .ok .ecdsaP384
  | some .eccNistP521 => .ok .ecdsaP521
  | some (.other name) => .error (.protocol ("aws-kms get_public_key: unsupported key spec " ++ name))
  | none => .error (.protocol "aws-kms get_public_key: missing key spec")

def publicKeyWithMeta (keyId : String) : Proc σ BackendError PublicKey := do
  let (key, spec) ← (client.getPublicKey (awsKeyRef prims keyId)).mapErr (mapKmsErr keyId "GetPublicKey")
  let der ← check (orErr key (.protocol "aws-kms get_public_key: no key"))
  let keyType ← check (keyTypeFromAwsKeySpec spec)
  let publicKey ← check
    (prims.publicFromSpki [.ecdsaP256, .ecdsaP384, .ecdsaP521] der keyType)
  return ⟨publicKey, keyType, 1⟩

def publicKey (keyId : String) : Proc σ BackendError Bytes := do
  let key ← publicKeyWithMeta prims client keyId
  return key.publicKey

def keyMetadata (keyId : String) : Proc σ BackendError KeyMetadata := do
  let spec ← (client.describeKey (awsKeyRef prims keyId)).mapErr (mapKmsErr keyId "DescribeKey")
  match spec with
  | some (.other "SYMMETRIC_DEFAULT") | none => return ⟨none, 1⟩
  | some other =>
      let keyType ← check (keyTypeFromAwsKeySpec (some other))
      return ⟨some keyType, 1⟩

def publicKeyWithRetry (keyId : String) : Nat → Proc σ BackendError Bytes
  | 0 => .fail (.keyNotFound keyId)
  | retries + 1 => do
      let result ← attempt (publicKey prims client keyId)
      match result with
      | .ok key => return key
      | .error (.keyNotFound id) =>
          if retries = 0 then .fail (.keyNotFound id) else publicKeyWithRetry keyId retries
      | .error err => .fail err

def createNamedKey (keyId : String) (keyType : KeyType) : Proc σ BackendError NewKey := do
  let spec ← check (awsKeySpec keyType)
  let out ← (client.createKey spec ("Basil transit signing key " ++ keyId)).mapErr
    (mapKmsErr keyId "CreateKey")
  let target ← check (orErr out (.protocol "aws-kms create_key: no key id"))
  (client.createAlias (awsKeyRef prims keyId) target).mapErr (mapKmsErr keyId "CreateAlias")
  let publicKey ← publicKeyWithRetry prims client keyId provisionRetries
  return ⟨keyId, publicKey⟩

def newKey (keyType : KeyType) : Proc σ BackendError NewKey := do
  let uuid ← client.uuidSimple
  createNamedKey prims client (assignedId uuid) keyType

def sign (keyId : String) (message : Bytes) : Proc σ BackendError Bytes := do
  let out ← (client.sign (awsKeyRef prims keyId) message .raw .ed25519Sha512).mapErr
    (mapKmsErr keyId "Sign")
  check (orErr out (.protocol "aws-kms sign: no signature"))

def signWithOptions (keyId : String) (message : Bytes) (options : SignOptions) :
    Proc σ BackendError Bytes :=
  if options = .default then sign prims client keyId message
  else do
    let digest ← check (prims.ecdsaDigest message options)
    let algorithm ← check (awsSigningAlgorithm options)
    let out ← (client.sign (awsKeyRef prims keyId) digest .digest algorithm).mapErr
      (mapKmsErr keyId "Sign")
    let der ← check (orErr out (.protocol "aws-kms sign: no signature"))
    check (prims.ecdsaDerToRaw der options)

def verdict (keyId : String) : Except AwsError Bool → Except BackendError Bool
  | .ok valid => .ok valid
  | .error .invalidSignature => .ok false
  | .error err => .error (mapKmsErr keyId "Verify" err)

def verifyWithOptions (keyId : String) (message signature : Bytes) (options : SignOptions) :
    Proc σ BackendError Bool :=
  if options = .default then do
    let out ← attempt
      (client.verify (awsKeyRef prims keyId) message .raw signature .ed25519Sha512)
    check (verdict keyId out)
  else do
    let digest ← check (prims.ecdsaDigest message options)
    let der ← check (prims.ecdsaRawToDer signature options)
    let algorithm ← check (awsSigningAlgorithm options)
    let out ← attempt (client.verify (awsKeyRef prims keyId) digest .digest der algorithm)
    check (verdict keyId out)

def aadContext (aad : Option Bytes) : Option (String × String) :=
  aad.map fun aad => ("basil-aad", prims.b64 aad)

def encrypt (keyId : String) (algorithm : AeadAlgorithm) (plaintext : Bytes) (aad : Option Bytes) :
    Proc σ BackendError CiphertextEnvelope := do
  check (ensure (algorithm = .aes256Gcm) (.unsupportedAlgorithm algorithm.token))
  let out ← (client.encrypt (awsKeyRef prims keyId) plaintext (aadContext prims aad)).mapErr
    (mapKmsErr keyId "Encrypt")
  let ciphertext ← check (orErr out (.protocol "aws-kms encrypt: no ciphertext"))
  return ⟨.aes256Gcm, 1, [], ciphertext⟩

def decrypt (keyId : String) (envelope : CiphertextEnvelope) (aad : Option Bytes) :
    Proc σ BackendError Bytes := do
  check (ensure (envelope.alg = .aes256Gcm) (.unsupportedAlgorithm envelope.alg.token))
  let out ← (client.decrypt (awsKeyRef prims keyId) envelope.ciphertext (aadContext prims aad)).mapErr
    fun
      | .invalidCiphertext => .decryptFailed
      | err => mapKmsErr keyId "Decrypt" err
  check (orErr out (.protocol "aws-kms decrypt: no plaintext"))

def backend : Backend σ where
  newKey := newKey prims client
  createNamedKey := createNamedKey prims client
  publicKey := publicKey prims client
  publicKeyWithMeta := publicKeyWithMeta prims client
  keyMetadata := keyMetadata prims client
  sign := sign prims client
  signWithOptions := signWithOptions prims client
  verify := fun keyId message signature => verifyWithOptions prims client keyId message signature .default
  verifyWithOptions := verifyWithOptions prims client
  encrypt := encrypt prims client
  decrypt := decrypt prims client

end AwsKms

/-! ### GCP -/

inductive GcpAlgorithm where
  | ecSignEd25519
  | ecSignP256Sha256
  | ecSignP384Sha384
  | other (name : String)
  deriving DecidableEq

inductive GcpError where
  | notFound
  | other
  deriving DecidableEq

inductive GcpInput where
  | data (message : Bytes)
  | digest (options : SignOptions) (digest : Bytes)
  deriving DecidableEq

structure GcpPublicKey where
  pem : String
  algorithm : Option GcpAlgorithm

structure GcpCryptoKey where
  asymmetricSign : Bool
  algorithm : Option GcpAlgorithm

structure GcpClient (σ : Type) where
  uuidSimple : Proc σ BackendError String
  createCryptoKey : String → String → GcpAlgorithm → Proc σ GcpError Unit
  getPublicKey : String → Proc σ GcpError GcpPublicKey
  getCryptoKey : String → Proc σ GcpError GcpCryptoKey
  asymmetricSign : String → GcpInput → Proc σ GcpError Bytes
  encrypt : String → Bytes → Bytes → Proc σ GcpError Bytes
  decrypt : String → Bytes → Bytes → Proc σ GcpError Bytes

namespace GcpKms

def versionSegment : String := "/cryptoKeyVersions/"

structure CryptoKeyVersionRef where
  keyId : String
  version : Nat
  deriving DecidableEq

def parseCryptoKeyVersion (keyId : String) : Except BackendError CryptoKeyVersionRef := do
  let (base, version) ← orErr (Text.rsplitOnce versionSegment keyId)
    (.protocol "gcp-kms asymmetric key path must include /cryptoKeyVersions/<version>")
  ensure (base ≠ "" ∧ version ≠ "" ∧ '/' ∉ version.toList)
    (.protocol "gcp-kms asymmetric key path has an invalid cryptoKeyVersions suffix")
  let version ← orErr (Text.parseUnsigned u32Max version)
    (.protocol "gcp-kms asymmetric key path has a non-numeric cryptoKeyVersions suffix")
  ensure (version ≠ 0) (.protocol "gcp-kms asymmetric key path version must be positive")
  return ⟨base, version⟩

def isCryptoKeyIdChar (c : Char) : Bool := c.isAlphanum || c == '_' || c == '-'

def isValidGcpCryptoKeyId (keyId : String) : Bool :=
  keyId ≠ "" && keyId.utf8ByteSize ≤ 63 && keyId.toList.all isCryptoKeyIdChar

def statusErr (keyId op : String) : GcpError → BackendError
  | .notFound => .keyNotFound keyId
  | .other => .backend ("gcp-kms-" ++ op ++ "-failed")

def gcpKeyAlgorithm (keyType : KeyType) : Except BackendError GcpAlgorithm :=
  match keyType with
  | .ed25519 | .ed25519Nkey => .ok .ecSignEd25519
  | .ecdsaP256 => .ok .ecSignP256Sha256
  | .ecdsaP384 => .ok .ecSignP384Sha384
  | _ => .error (.unsupportedKeyType keyType.token)

def gcpKeyType : Option GcpAlgorithm → Except BackendError KeyType
  | some .ecSignEd25519 => .ok .ed25519
  | some .ecSignP256Sha256 => .ok .ecdsaP256
  | some .ecSignP384Sha384 => .ok .ecdsaP384
  | some (.other name) => .error (.protocol ("gcp-kms get_public_key: unsupported algorithm " ++ name))
  | none => .error (.protocol "gcp-kms get_public_key: unknown algorithm")

variable {σ : Type} (prims : KmsPrimitives) (b64Decode : String → Option Bytes) (keyRing : String)
variable (client : GcpClient σ)

def gcpCryptoKeyId (keyId : String) : String :=
  if isValidGcpCryptoKeyId keyId then keyId
  else
    let cs := keyId.toList.map fun c => if isCryptoKeyIdChar c then c else '-'
    let slug := ((cs.dropWhile (· == '-')).reverse.dropWhile (· == '-')).reverse
    let suffix := (prims.b64UrlNoPad (prims.sha256 keyId.toUTF8.toList)).toList.take 10
    let slug := if slug = [] then "key".toList else slug.take (63 - (7 + suffix.length))
    "basil-" ++ String.ofList slug ++ "-" ++ String.ofList suffix

def cryptoKeyName (keyId : String) : String := keyRing ++ "/cryptoKeys/" ++ gcpCryptoKeyId prims keyId

structure CryptoKeyVersionResource where
  name : String
  version : Nat
  deriving DecidableEq

def cryptoKeyVersionName (keyId : String) : Except BackendError CryptoKeyVersionResource := do
  let parsed ← parseCryptoKeyVersion keyId
  return ⟨cryptoKeyName prims keyRing parsed.keyId ++ versionSegment ++ toString parsed.version,
    parsed.version⟩

def pemToDer (pem : String) : Except BackendError Bytes := do
  let body := String.join ((Text.lines pem).filter fun line => (Text.stripLead "-----" line).isNone)
  ensure (body ≠ "") (.protocol "kms public key PEM is empty")
  orErr (b64Decode body) (.protocol "kms public key PEM is not valid base64")

def publicKeyWithMeta (keyId : String) : Proc σ BackendError PublicKey := do
  let target ← check (cryptoKeyVersionName prims keyRing keyId)
  let resp ← (client.getPublicKey target.name).mapErr (statusErr keyId "get-public-key")
  let der ← check (pemToDer b64Decode resp.pem)
  let keyType ← check (gcpKeyType resp.algorithm)
  let publicKey ← check (prims.publicFromSpki [.ecdsaP256, .ecdsaP384] der keyType)
  return ⟨publicKey, keyType, target.version⟩

def publicKey (keyId : String) : Proc σ BackendError Bytes := do
  let key ← publicKeyWithMeta prims b64Decode keyRing client keyId
  return key.publicKey

def publicKeys (keyId : String) : Proc σ BackendError (OrdMap Nat Bytes) := do
  let key ← publicKeyWithMeta prims b64Decode keyRing client keyId
  return OrdMap.empty.insert key.version key.publicKey

def keyMetadata (keyId : String) : Proc σ BackendError KeyMetadata := do
  let (baseKeyId, latestVersion) ← check (
    if (Text.rsplitOnce versionSegment keyId).isSome then do
      let parsed ← parseCryptoKeyVersion keyId
      return (parsed.keyId, parsed.version)
    else .ok (keyId, 1))
  let cryptoKey ← (client.getCryptoKey (cryptoKeyName prims keyRing baseKeyId)).mapErr
    (statusErr keyId "get-crypto-key")
  if cryptoKey.asymmetricSign = true then
    let keyType ← check (gcpKeyType cryptoKey.algorithm)
    return ⟨some keyType, latestVersion⟩
  else return ⟨none, latestVersion⟩

def createNamedKey (keyId : String) (keyType : KeyType) : Proc σ BackendError NewKey := do
  let algorithm ← check (gcpKeyAlgorithm keyType)
  (client.createCryptoKey keyRing (gcpCryptoKeyId prims keyId) algorithm).mapErr
    (statusErr keyId "create-key")
  let versionedKeyId := keyId ++ versionSegment ++ "1"
  let publicKey ← publicKey prims b64Decode keyRing client versionedKeyId
  return ⟨versionedKeyId, publicKey⟩

def newKey (keyType : KeyType) : Proc σ BackendError NewKey := do
  let uuid ← client.uuidSimple
  createNamedKey prims b64Decode keyRing client (assignedId uuid) keyType

def signWithOptions (keyId : String) (message : Bytes) (options : SignOptions) :
    Proc σ BackendError Bytes := do
  let target ← check (cryptoKeyVersionName prims keyRing keyId)
  if options = .default then
    (client.asymmetricSign target.name (.data message)).mapErr (statusErr keyId "sign")
  else
    let digest ← check (prims.ecdsaDigest message options)
    let signature ← (client.asymmetricSign target.name (.digest options digest)).mapErr
      (statusErr keyId "sign")
    check (prims.ecdsaDerToRaw signature options)

def verify (keyId : String) (message signature : Bytes) : Proc σ BackendError Bool := do
  let publicKey ← publicKey prims b64Decode keyRing client keyId
  match FixedBytes.ofBytes? 32 publicKey, FixedBytes.ofBytes? 64 signature with
  | some publicKey, some signature => return prims.ed25519Verify publicKey message signature
  | _, _ => return false

def verifyWithOptions (keyId : String) (message signature : Bytes) (options : SignOptions) :
    Proc σ BackendError Bool :=
  if options = .default then verify prims b64Decode keyRing client keyId message signature
  else do
    let key ← publicKeyWithMeta prims b64Decode keyRing client keyId
    let expected ← check (match options with
      | .es256 => .ok KeyType.ecdsaP256
      | .es384 => .ok .ecdsaP384
      | .es512 => .ok .ecdsaP521
      | .default | .rs256Pkcs1v15Sha256 => .error (.unsupported "gcp-kms verify options"))
    if key.keyType ≠ expected then return false
    else check (prims.verifyEcdsaRaw key.publicKey message signature options)

def encrypt (keyId : String) (algorithm : AeadAlgorithm) (plaintext : Bytes) (aad : Option Bytes) :
    Proc σ BackendError CiphertextEnvelope := do
  check (ensure (algorithm = .aes256Gcm) (.unsupportedAlgorithm algorithm.token))
  let ciphertext ← (client.encrypt (cryptoKeyName prims keyRing keyId) plaintext
    (aad.getD [])).mapErr (statusErr keyId "encrypt")
  return ⟨.aes256Gcm, 1, [], ciphertext⟩

def decrypt (keyId : String) (envelope : CiphertextEnvelope) (aad : Option Bytes) :
    Proc σ BackendError Bytes := do
  check (ensure (envelope.alg = .aes256Gcm) (.unsupportedAlgorithm envelope.alg.token))
  (client.decrypt (cryptoKeyName prims keyRing keyId) envelope.ciphertext (aad.getD [])).mapErr fun
    | .notFound => .keyNotFound keyId
    | .other => .decryptFailed

def backend : Backend σ where
  newKey := newKey prims b64Decode keyRing client
  createNamedKey := createNamedKey prims b64Decode keyRing client
  publicKey := publicKey prims b64Decode keyRing client
  publicKeyWithMeta := publicKeyWithMeta prims b64Decode keyRing client
  keyMetadata := keyMetadata prims keyRing client
  publicKeys := publicKeys prims b64Decode keyRing client
  sign := fun keyId message => signWithOptions prims keyRing client keyId message .default
  signWithOptions := signWithOptions prims keyRing client
  verify := verify prims b64Decode keyRing client
  verifyWithOptions := verifyWithOptions prims b64Decode keyRing client
  encrypt := encrypt prims keyRing client
  decrypt := decrypt prims keyRing client

end GcpKms

end Basil
