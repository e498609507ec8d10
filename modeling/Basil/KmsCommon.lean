import Basil.Backend

/-!
# Helpers of the key-management backends (`core/backend/kms_common.rs`)
-/

namespace Basil

structure EcdsaCodec where
  derToRaw : SignOptions → Bytes → Option Bytes
  rawToDer : SignOptions → Bytes → Option Bytes

namespace EcdsaCodec

variable (codec : EcdsaCodec)

def ecdsaDerToRaw (signature : Bytes) (options : SignOptions) : Except BackendError Bytes :=
  match options with
  | .es256 =>
      orErr (codec.derToRaw .es256 signature) (.protocol "ECDSA P-256 signature DER is malformed")
  | .es384 =>
      orErr (codec.derToRaw .es384 signature) (.protocol "ECDSA P-384 signature DER is malformed")
  | .es512 =>
      orErr (codec.derToRaw .es512 signature) (.protocol "ECDSA P-521 signature DER is malformed")
  | .default | .rs256Pkcs1v15Sha256 => .ok signature

def ecdsaRawToDer (signature : Bytes) (options : SignOptions) : Except BackendError Bytes :=
  match options with
  | .es256 =>
      orErr (codec.rawToDer .es256 signature) (.protocol "ES256 signature must be 64 raw bytes")
  | .es384 =>
      orErr (codec.rawToDer .es384 signature) (.protocol "ES384 signature must be 96 raw bytes")
  | .es512 =>
      orErr (codec.rawToDer .es512 signature) (.protocol "ES512 signature must be 132 raw bytes")
  | .default | .rs256Pkcs1v15Sha256 => .ok signature

def Inverse : Prop :=
  ∀ options der raw, codec.derToRaw options der = some raw → codec.rawToDer options raw = some der

variable {codec}

theorem ecdsaRawToDer_ecdsaDerToRaw (h : codec.Inverse) {der raw : Bytes} {options : SignOptions}
    (hraw : codec.ecdsaDerToRaw der options = .ok raw) :
    codec.ecdsaRawToDer raw options = .ok der := by
  cases options with
  | default =>
    cases hraw
    rfl
  | rs256Pkcs1v15Sha256 =>
    cases hraw
    rfl
  | es256 | es384 | es512 =>
    simp only [ecdsaDerToRaw, orErr_eq_ok] at hraw
    simp only [ecdsaRawToDer, orErr_eq_ok]
    exact h _ _ _ hraw

end EcdsaCodec

structure KmsPrimitives extends EcdsaCodec where
  sha256 : Bytes → Bytes
  sha384 : Bytes → Bytes
  sha512 : Bytes → Bytes
  b64 : Bytes → String
  b64UrlNoPad : Bytes → String
  sec1FromSpki : KeyType → Bytes → Option Bytes
  ed25519Verify : FixedBytes 32 → Bytes → FixedBytes 64 → Bool
  ecdsaVerify : SignOptions → Bytes → Bytes → Bytes → Option Bool

def ed25519SpkiPrefix : Bytes := [0x30, 0x2a, 0x30, 0x05, 0x06, 0x03, 0x2b, 0x65, 0x70, 0x03, 0x21, 0x00]

def ed25519PublicFromSpki (der : Bytes) : Except BackendError Bytes := do
  ensure (der.length = 44 ∧ der.take 12 = ed25519SpkiPrefix)
    (.protocol "kms public key is not an Ed25519 SPKI")
  return der.drop 12

namespace KmsPrimitives

variable (prims : KmsPrimitives)

def ecdsaDigest (message : Bytes) : SignOptions → Except BackendError Bytes
  | .es256 => .ok (prims.sha256 message)
  | .es384 => .ok (prims.sha384 message)
  | .es512 => .ok (prims.sha512 message)
  | .default | .rs256Pkcs1v15Sha256 => .error (.unsupported "ecdsa digest")

def publicFromSpki (curves : List KeyType) (der : Bytes) (keyType : KeyType) :
    Except BackendError Bytes :=
  if keyType = .ed25519 then ed25519PublicFromSpki der
  else if keyType ∈ curves then
    orErr (prims.sec1FromSpki keyType der) (.protocol (match keyType with
      | .ecdsaP256 => "P-256 public key SPKI is malformed"
      | .ecdsaP384 => "P-384 public key SPKI is malformed"
      | _ => "P-521 public key SPKI is malformed"))
  else .error (.unsupportedKeyType keyType.token)

def verifyEcdsaRaw (publicSec1 message signature : Bytes) (options : SignOptions) :
    Except BackendError Bool :=
  match options with
  | .es256 | .es384 | .es512 => orErr (prims.ecdsaVerify options publicSec1 message signature)
      (.protocol "public key or signature is malformed")
  | .default | .rs256Pkcs1v15Sha256 => .error (.unsupported "verify ecdsa raw")

end KmsPrimitives

end Basil
