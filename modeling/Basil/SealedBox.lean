import Basil.Provider

/-!
# Sealed boxes (`core/x25519_seal.rs`, `core/ml_kem_envelope.rs`, `basil-nats/src/lib.rs`)
-/

namespace Basil

open FixedBytes

inductive EnvelopeAlgorithm where
  | aes256Gcm
  | chacha20Poly1305
  deriving DecidableEq

def EnvelopeAlgorithm.token : EnvelopeAlgorithm → String
  | aes256Gcm => "aes-256-gcm"
  | chacha20Poly1305 => "chacha20-poly1305"

structure SealCrypto where
  x25519Public : FixedBytes 32 → FixedBytes 32
  diffieHellman : FixedBytes 32 → FixedBytes 32 → FixedBytes 32
  hkdfSha256 : Bytes → Bytes → Option (FixedBytes 32)
  hsalsa : FixedBytes 32 → FixedBytes 32
  aeadEncrypt : EnvelopeAlgorithm → FixedBytes 32 → FixedBytes 12 → Bytes → Bytes → Option Bytes
  aeadDecrypt : EnvelopeAlgorithm → FixedBytes 32 → FixedBytes 12 → Bytes → Bytes → Option Bytes
  secretboxEncrypt : FixedBytes 32 → FixedBytes 24 → Bytes → Option Bytes
  secretboxDecrypt : FixedBytes 32 → FixedBytes 24 → Bytes → Option Bytes
  mlKemPublic : KemAlgorithm → FixedBytes 64 → Bytes
  mlKemEncapsulate : KemAlgorithm → FixedBytes 64 → FixedBytes 32 → Bytes × Bytes
  mlKemDecapsulate : KemAlgorithm → FixedBytes 64 → Bytes → Option Bytes
  base32Encode : Bytes → String
  base32Decode : String → Option Bytes

def SealCrypto.refusing : SealCrypto where
  x25519Public := id
  diffieHellman := fun a _ => a
  hkdfSha256 := fun _ _ => none
  hsalsa := id
  aeadEncrypt := fun _ _ _ _ _ => none
  aeadDecrypt := fun _ _ _ _ _ => none
  secretboxEncrypt := fun _ _ _ => none
  secretboxDecrypt := fun _ _ _ => none
  mlKemPublic := fun _ _ => []
  mlKemEncapsulate := fun _ _ _ => ([], [])
  mlKemDecapsulate := fun _ _ _ => none
  base32Encode := fun _ => ""
  base32Decode := fun _ => none

def tagLen : Nat := 16

structure SealCrypto.Correct (C : SealCrypto) : Prop where
  diffieHellman_comm : ∀ a b,
    C.diffieHellman a (C.x25519Public b) = C.diffieHellman b (C.x25519Public a)
  aead : ∀ alg key nonce aad,
    CipherCorrect tagLen (C.aeadEncrypt alg key nonce aad) (C.aeadDecrypt alg key nonce aad)
  secretbox : ∀ key nonce,
    CipherCorrect tagLen (C.secretboxEncrypt key nonce) (C.secretboxDecrypt key nonce)
  decapsulate : ∀ kem seed drawn,
    C.mlKemDecapsulate kem seed (C.mlKemEncapsulate kem seed drawn).1 =
      some (C.mlKemEncapsulate kem seed drawn).2
  base32 : ∀ bytes, C.base32Decode (C.base32Encode bytes) = some bytes

variable (C : SealCrypto)

def wasContributory (shared : FixedBytes 32) : Bool := shared != fill 32 0

/-! ### X25519 sealed boxes -/

namespace X25519Seal

inductive SealError where
  | badKeyLength (expected actual : Nat)
  | badNonceLength (expected actual : Nat)
  | kdfFailed
  | sealFailed
  | openFailed
  deriving DecidableEq

structure SealedEnvelope where
  encapsulatedKey : FixedBytes 32
  nonce : FixedBytes 12
  ciphertext : Bytes
  deriving DecidableEq

def hkdfLabel : Bytes := "basil-x25519-seal-v1".toUTF8.toList

def array32 (bytes : Bytes) : Except SealError (FixedBytes 32) :=
  orErr (ofBytes? 32 bytes) (.badKeyLength 32 bytes.length)

def privateFromSlice (bytes : Bytes) : Except SealError (FixedBytes 32) := array32 bytes

def publicFromSlice (bytes : Bytes) : Except SealError (FixedBytes 32) := array32 bytes

def deriveAeadKey (shared ephemeralPub recipientPub : FixedBytes 32) :
    Except SealError (FixedBytes 32) :=
  orErr (C.hkdfSha256 shared.bytes (hkdfLabel ++ ephemeralPub.bytes ++ recipientPub.bytes)) .kdfFailed

def sealWithParts (recipientPub : FixedBytes 32) (plaintext aad : Bytes)
    (ephemeralPrivate : FixedBytes 32) (nonce : FixedBytes 12) : Except SealError SealedEnvelope := do
  let ephemeralPub := C.x25519Public ephemeralPrivate
  let shared := C.diffieHellman ephemeralPrivate recipientPub
  ensure (wasContributory shared = true) .sealFailed
  let key ← deriveAeadKey C shared ephemeralPub recipientPub
  let ciphertext ← orErr (C.aeadEncrypt .chacha20Poly1305 key nonce aad plaintext) .sealFailed
  return ⟨ephemeralPub, nonce, ciphertext⟩

def openEnvelope (recipientPriv : FixedBytes 32) (env : SealedEnvelope) (aad : Bytes) :
    Except SealError Bytes := do
  let recipientPub := C.x25519Public recipientPriv
  let shared := C.diffieHellman recipientPriv env.encapsulatedKey
  ensure (wasContributory shared = true) .openFailed
  let key ← deriveAeadKey C shared env.encapsulatedKey recipientPub
  orErr (C.aeadDecrypt .chacha20Poly1305 key env.nonce aad env.ciphertext) .openFailed

def envelopeFromParts (encapsulatedKey nonce ciphertext : Bytes) : Except SealError SealedEnvelope := do
  let encapsulatedKey ← array32 encapsulatedKey
  let nonce ← orErr (ofBytes? 12 nonce) (.badNonceLength 12 nonce.length)
  return ⟨encapsulatedKey, nonce, ciphertext⟩

variable {C}

@[simp] theorem envelopeFromParts_parts (env : SealedEnvelope) :
    envelopeFromParts env.encapsulatedKey.bytes env.nonce.bytes env.ciphertext = .ok env := by
  simp only [envelopeFromParts, array32, ofBytes?_bytes, orErr, ok_bind]
  rfl

theorem openEnvelope_sealWithParts (hC : C.Correct) {priv ephemeral : FixedBytes 32}
    {plaintext aad : Bytes} {nonce : FixedBytes 12} {env : SealedEnvelope}
    (h : sealWithParts C (C.x25519Public priv) plaintext aad ephemeral nonce = .ok env) :
    openEnvelope C priv env aad = .ok plaintext ∧
      env.ciphertext.length = plaintext.length + tagLen := by
  simp only [sealWithParts, eq_ok] at h
  obtain ⟨-, hcontributory, key, hkey, ciphertext, hencrypt, rfl⟩ := h
  have hcipher := hC.aead .chacha20Poly1305 key nonce aad
  have hshared := hC.diffieHellman_comm priv ephemeral
  constructor
  · simp only [openEnvelope]
    rw [hshared, ensure_pos hcontributory, ok_bind, hkey, ok_bind,
      hcipher.decrypt_encrypt hencrypt]
    rfl
  · exact hcipher.length_encrypt hencrypt

end X25519Seal

/-! ### ML-KEM envelopes -/

namespace MlKem

inductive EnvelopeError where
  | badSeedLength (expected actual : Nat)
  | badCiphertextLength
  | badNonceLength (expected actual : Nat)
  | kdfFailed
  | sealFailed
  | openFailed
  deriving DecidableEq

structure Envelope where
  kemAlgorithm : KemAlgorithm
  envelopeAlgorithm : EnvelopeAlgorithm
  encapsulatedKey : Bytes
  nonce : FixedBytes 12
  ciphertext : Bytes
  deriving DecidableEq

def hkdfLabel : Bytes := "basil-ml-kem-envelope-v1".toUTF8.toList

def seedFromSlice (seed : Bytes) : Except EnvelopeError (FixedBytes 64) :=
  orErr (ofBytes? 64 seed) (.badSeedLength 64 seed.length)

def deriveAeadKey (kem : KemAlgorithm) (envelope : EnvelopeAlgorithm)
    (sharedSecret encapsulatedKey publicKey : Bytes) : Except EnvelopeError (FixedBytes 32) :=
  orErr (C.hkdfSha256 sharedSecret (hkdfLabel ++ kem.token.toUTF8.toList ++
    envelope.token.toUTF8.toList ++ encapsulatedKey ++ publicKey)) .kdfFailed

def sealEnvelope (seed : Bytes) (kem : KemAlgorithm) (alg : EnvelopeAlgorithm) (plaintext aad : Bytes)
    (drawn : FixedBytes 32) (nonce : FixedBytes 12) : Except EnvelopeError Envelope := do
  let seed ← seedFromSlice seed
  let (encapsulatedKey, sharedSecret) := C.mlKemEncapsulate kem seed drawn
  let key ← deriveAeadKey C kem alg sharedSecret encapsulatedKey (C.mlKemPublic kem seed)
  let ciphertext ← orErr (C.aeadEncrypt alg key nonce aad plaintext) .sealFailed
  return ⟨kem, alg, encapsulatedKey, nonce, ciphertext⟩

def envelopeFromParts (kem : KemAlgorithm) (alg : EnvelopeAlgorithm)
    (encapsulatedKey nonce ciphertext : Bytes) : Except EnvelopeError Envelope := do
  let nonce ← orErr (ofBytes? 12 nonce) (.badNonceLength 12 nonce.length)
  return ⟨kem, alg, encapsulatedKey, nonce, ciphertext⟩

def openEnvelope (seed : Bytes) (env : Envelope) (aad : Bytes) : Except EnvelopeError Bytes := do
  let seed ← seedFromSlice seed
  let sharedSecret ← orErr (C.mlKemDecapsulate env.kemAlgorithm seed env.encapsulatedKey)
    .badCiphertextLength
  let key ← deriveAeadKey C env.kemAlgorithm env.envelopeAlgorithm sharedSecret env.encapsulatedKey
    (C.mlKemPublic env.kemAlgorithm seed)
  orErr (C.aeadDecrypt env.envelopeAlgorithm key env.nonce aad env.ciphertext) .openFailed

variable {C}

@[simp] theorem envelopeFromParts_parts (env : Envelope) :
    envelopeFromParts env.kemAlgorithm env.envelopeAlgorithm env.encapsulatedKey env.nonce.bytes
      env.ciphertext = .ok env := by
  simp only [envelopeFromParts, ofBytes?_bytes, orErr, ok_bind]
  rfl

theorem openEnvelope_sealEnvelope (hC : C.Correct) {seed plaintext aad : Bytes} {kem : KemAlgorithm}
    {alg : EnvelopeAlgorithm} {drawn : FixedBytes 32} {nonce : FixedBytes 12} {env : Envelope}
    (h : sealEnvelope C seed kem alg plaintext aad drawn nonce = .ok env) :
    env.kemAlgorithm = kem ∧ env.envelopeAlgorithm = alg ∧
      openEnvelope C seed env aad = .ok plaintext ∧
      env.ciphertext.length = plaintext.length + tagLen := by
  simp only [sealEnvelope, eq_ok] at h
  obtain ⟨_, hseed, key, hkey, ciphertext, hencrypt, rfl⟩ := h
  have hcipher := hC.aead alg key nonce aad
  refine ⟨rfl, rfl, ?_, hcipher.length_encrypt hencrypt⟩
  simp only [openEnvelope]
  rw [hseed, ok_bind, hC.decapsulate]
  simp only [orErr, ok_bind]
  rw [hkey, ok_bind, hcipher.decrypt_encrypt hencrypt]

end MlKem

/-! ### NATS nkeys and authenticated boxes -/

def NkeyType.prefixByte : NkeyType → UInt8
  | account => 0
  | cluster => (2 : UInt8) <<< (3 : UInt8)
  | server => (13 : UInt8) <<< (3 : UInt8)
  | operator => (14 : UInt8) <<< (3 : UInt8)
  | user => (20 : UInt8) <<< (3 : UInt8)
  | curve => (23 : UInt8) <<< (3 : UInt8)

def NkeyType.fromPrefixByte (byte : UInt8) : Option NkeyType :=
  NkeyType.all.find? fun role => role.prefixByte == byte

namespace Nats

inductive NatsError where
  | badPublicKeyLen (len : Nat)
  | badEncoding
  | unsupportedPrefix (letter : Char)
  | unexpectedPrefix (expected actual : NkeyType)
  | unexpectedXkeyPrefix (role : NkeyType)
  | badXkeyVersion
  | badXkeyCiphertextLen (len : Nat)
  | xkeyRandomnessFailed
  | xkeySealFailed
  | xkeyOpenFailed
  deriving DecidableEq

def crc16Bit (crc : UInt16) : UInt16 :=
  if crc &&& 0x8000 ≠ 0 then (crc <<< (1 : UInt16)) ^^^ 0x1021 else crc <<< (1 : UInt16)

def crc16 (data : Bytes) : UInt16 :=
  data.foldl (fun crc b => Nat.iterate crc16Bit 8 (crc ^^^ (b.toUInt16 <<< (8 : UInt16)))) 0

def encodePublic (role : NkeyType) (key : FixedBytes 32) : String :=
  let body := role.prefixByte :: key.bytes
  let crc := (crc16 body).toNat
  C.base32Encode (body ++ [UInt8.ofNat crc, UInt8.ofNat (crc / 256)])

def decodePublic (nkey : String) : Except NatsError (NkeyType × FixedBytes 32) := do
  let raw ← orErr (C.base32Decode nkey) .badEncoding
  match raw.take 33, raw.drop 33 with
  | lead :: key, [lo, hi] => do
      let key ← orErr (ofBytes? 32 key) (.badPublicKeyLen raw.length)
      ensure (lo.toNat + 256 * hi.toNat = (crc16 (raw.take 33)).toNat) (.badPublicKeyLen raw.length)
      let role ← orErr (NkeyType.fromPrefixByte lead)
        (.unsupportedPrefix (nkey.toList.head?.getD '?'))
      return (role, key)
  | _, _ => .error (.badPublicKeyLen raw.length)

def decodeXkeyPublic (nkey : String) : Except NatsError (FixedBytes 32) := do
  let (actual, key) ← decodePublic C nkey
  ensure (actual = .curve) (.unexpectedXkeyPrefix actual)
  return key

inductive BoxMode where
  | sealing
  | opening
  deriving DecidableEq

def boxCrypt (priv peerPublic : FixedBytes 32) (nonce : FixedBytes 24) (input : Bytes)
    (mode : BoxMode) : Except NatsError Bytes := do
  let shared := C.diffieHellman priv peerPublic
  ensure (wasContributory shared = true)
    (match mode with | .sealing => .xkeySealFailed | .opening => .xkeyOpenFailed)
  let key := C.hsalsa shared
  match mode with
  | .sealing => orErr (C.secretboxEncrypt key nonce input) .xkeySealFailed
  | .opening => orErr (C.secretboxDecrypt key nonce input) .xkeyOpenFailed

def xkeyVersionV1 : Bytes := "xkv1".toUTF8.toList

def xkeyNonceLen : Nat := 24

def sealNatsCurve (senderPrivate : FixedBytes 32) (recipientPublicXkey : String) (plaintext : Bytes)
    (nonce : Option (FixedBytes 24)) : Except NatsError Bytes := do
  let recipientPublic ← decodeXkeyPublic C recipientPublicXkey
  let nonce ← orErr nonce .xkeyRandomnessFailed
  let ciphertext ← boxCrypt C senderPrivate recipientPublic nonce plaintext .sealing
  return xkeyVersionV1 ++ nonce.bytes ++ ciphertext

def stripVersion (ciphertext : Bytes) : Option Bytes :=
  if ciphertext.take xkeyVersionV1.length = xkeyVersionV1 then
    some (ciphertext.drop xkeyVersionV1.length) else none

def openNatsCurve (recipientPrivate : FixedBytes 32) (senderPublicXkey : String) (ciphertext : Bytes) :
    Except NatsError Bytes := do
  let senderPublic ← decodeXkeyPublic C senderPublicXkey
  let rest ← orErr (stripVersion ciphertext) .badXkeyVersion
  ensure (xkeyNonceLen + tagLen ≤ rest.length) (.badXkeyCiphertextLen ciphertext.length)
  let nonce ← orErr (ofBytes? 24 (rest.take xkeyNonceLen))
    (.badXkeyCiphertextLen ciphertext.length)
  boxCrypt C recipientPrivate senderPublic nonce (rest.drop xkeyNonceLen) .opening

variable {C}

theorem stripVersion_append (rest : Bytes) : stripVersion (xkeyVersionV1 ++ rest) = some rest := by
  simp [stripVersion]

theorem openNatsCurve_sealNatsCurve (hC : C.Correct) {sender recipient : FixedBytes 32}
    {recipientXkey senderXkey : String} {plaintext ciphertext : Bytes}
    {nonce : Option (FixedBytes 24)}
    (hrecipient : decodeXkeyPublic C recipientXkey = .ok (C.x25519Public recipient))
    (hsender : decodeXkeyPublic C senderXkey = .ok (C.x25519Public sender))
    (h : sealNatsCurve C sender recipientXkey plaintext nonce = .ok ciphertext) :
    openNatsCurve C recipient senderXkey ciphertext = .ok plaintext ∧
      ciphertext.length = plaintext.length + (xkeyVersionV1.length + xkeyNonceLen + tagLen) := by
  simp only [sealNatsCurve, boxCrypt, hrecipient, ok_bind, eq_ok] at h
  obtain ⟨nonce, -, box, ⟨-, hcontributory, hencrypt⟩, rfl⟩ := h
  have hcipher := hC.secretbox (C.hsalsa (C.diffieHellman sender (C.x25519Public recipient))) nonce
  have hlength : box.length = plaintext.length + tagLen := hcipher.length_encrypt hencrypt
  have hnonce : nonce.bytes.length = xkeyNonceLen := nonce.length_eq
  have hlong : xkeyNonceLen + tagLen ≤ (nonce.bytes ++ box).length := by
    rw [List.length_append, hnonce, hlength]
    omega
  have hshared := hC.diffieHellman_comm recipient sender
  constructor
  · rw [List.append_assoc]
    simp only [openNatsCurve, hsender, ok_bind, stripVersion_append, orErr, ensure_pos hlong,
      List.take_left' hnonce, List.drop_left' hnonce, ofBytes?_bytes, boxCrypt, hshared,
      ensure_pos hcontributory, hcipher.decrypt_encrypt hencrypt]
  · simp only [List.length_append, hnonce, hlength]
    omega

end Nats

end Basil
