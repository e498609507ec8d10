import Basil.Lib.Bytes
import Basil.Lib.Check
import Basil.Lib.OrdMap
import Mathlib.Data.String.Basic

/-!
# The sealed bundle on disk (`core/seal/format.rs`, `core/seal/cred.rs`)

The header is stored twice, parsed and as the literal bytes that every seal binds.
-/

namespace Basil.Bundle

inductive MethodKind where
  | ageYubikey
  | bip39
  | passphrase
  | tpm
  deriving DecidableEq

inductive UnlockError where
  | unavailable (detail : String)
  | authFailed
  | notImplemented (kind : MethodKind)
  | paramsMismatch (detail : String)
  | crypto (detail : String)
  deriving DecidableEq

inductive SealError where
  | format (detail : String)
  | authFailed
  | crypto (detail : String)
  | noSlotOpened
  | lastSlot
  | slotNotFound (slotId : Nat)
  | unlock (error : UnlockError)
  | payload (detail : String)
  deriving DecidableEq

def magic : Bytes := "BASILBDL\x00".toUTF8.data.toList

def formatVersion : Nat := 1

inductive ContainerId where
  | json
  deriving DecidableEq

inductive AeadId where
  | aes256Gcm
  deriving DecidableEq

structure Suite where
  container : ContainerId
  payloadAead : AeadId
  kekWrapAead : AeadId
  deriving DecidableEq

def Suite.v1 : Suite := ⟨.json, .aes256Gcm, .aes256Gcm⟩

structure Header where
  formatVersion : Nat
  suite : Suite
  bundleId : FixedBytes 16
  createdUnix : Nat
  epoch : Nat
  deriving DecidableEq

structure Argon2Params where
  mCostKib : Nat
  tCost : Nat
  pCost : Nat
  deriving DecidableEq

structure TpmPcrSelection where
  bank : String
  pcrs : List Nat
  deriving DecidableEq

inductive MethodParams where
  | ageYubikey (recipient : String)
  | bip39 (salt : Bytes) (argon2 : Argon2Params)
  | passphrase (salt : Bytes) (argon2 : Argon2Params)
  | tpm (publicArea privateArea : Bytes) (pcrs : TpmPcrSelection) (nameAlg srkTemplate : String)
  deriving DecidableEq

structure KekWrap where
  nonce : Bytes
  ciphertext : Bytes
  deriving DecidableEq

structure Slot where
  slotId : Nat
  method : MethodKind
  label : String
  createdUnix : Nat
  params : MethodParams
  wrap : KekWrap
  deriving DecidableEq

structure SealedPayload where
  nonce : Bytes
  ciphertext : Bytes
  deriving DecidableEq

structure DepositSealedCred where
  encapsulatedKey : Bytes
  nonce : Bytes
  ciphertext : Bytes
  deriving DecidableEq

structure DepositRecord where
  backendId : String
  epoch : Nat
  seq : Nat
  contributorKeyId : String
  sealedCred : DepositSealedCred
  signature : Bytes
  deriving DecidableEq

structure BundleBody where
  headerB64 : Bytes
  header : Header
  slots : List Slot
  payload : SealedPayload
  deposits : List DepositRecord
  deriving DecidableEq

structure ParsedBundle where
  body : BundleBody
  deriving DecidableEq

def ParsedBundle.headerAad (parsed : ParsedBundle) : Bytes := parsed.body.headerB64

/-! ### The payload -/

inductive BackendCred where
  | vaultToken (token : String) (addr : Option String)
  | vaultAppRole (roleId secretId : String) (addr : Option String)
  | spiffeSigner (keyPem spiffeId : String)
  | dbKeystoreDek (dek : FixedBytes 32)
  | onePassword (providerUri project profile : String)
  | awsKms (region profile : String)
  | gcpKms (project location keyRing : String) (serviceAccountJson : Option String)
  | opaqueCred (kind : String) (secret : Bytes)
  deriving DecidableEq

structure DepositContributor where
  publicKey : String
  allowedBackendIds : List String

structure DepositMaterial where
  ingestPrivateKey : Option (FixedBytes 32)
  contributors : OrdMap String DepositContributor

structure CredBundle where
  schemaVersion : Nat
  backends : OrdMap String BackendCred
  deposit : DepositMaterial

def CredBundle.set (creds : CredBundle) (backendId : String) (cred : BackendCred) : CredBundle :=
  { creds with backends := creds.backends.insert backendId cred }

/-! ### Encoding -/

structure Signed where
  backendId : String
  epoch : Nat
  seq : Nat
  contributorKeyId : String
  sealedCred : DepositSealedCred
  deriving DecidableEq

structure DepositContext where
  bundleId : FixedBytes 16
  epoch : Nat
  backendId : String
  seq : Nat
  contributorKeyId : String
  deriving DecidableEq

/-- The JSON serializer: what it writes it reads back, and distinct values have distinct
texts. -/
structure Json where
  headerToVec : Header → Bytes
  headerFromSlice : Bytes → Except String Header
  bodyToVec : BundleBody → Bytes
  bodyFromSlice : Bytes → Except String BundleBody
  payloadToVec : CredBundle → Bytes
  payloadFromSlice : Bytes → Except String CredBundle
  credToVec : BackendCred → Bytes
  credFromSlice : Bytes → Except String BackendCred
  signedToVec : Signed → Bytes
  contextToVec : DepositContext → Bytes
  header_read : ∀ header, headerFromSlice (headerToVec header) = .ok header
  body_read : ∀ body, bodyFromSlice (bodyToVec body) = .ok body
  payload_read : ∀ payload, payloadFromSlice (payloadToVec payload) = .ok payload
  cred_read : ∀ cred, credFromSlice (credToVec cred) = .ok cred
  signed_injective : Function.Injective signedToVec
  context_injective : Function.Injective contextToVec

variable (json : Json)

def encodeWithDeposits (header : Header) (headerAad : Bytes) (slots : List Slot)
    (payload : SealedPayload) (deposits : List DepositRecord) : Bytes :=
  magic ++ beBytes 2 formatVersion ++ json.bodyToVec ⟨headerAad, header, slots, payload, deposits⟩

def encode (header : Header) (headerAad : Bytes) (slots : List Slot) (payload : SealedPayload) :
    Bytes :=
  encodeWithDeposits json header headerAad slots payload []

def depositSigningBytes (record : DepositRecord) : Bytes :=
  json.signedToVec ⟨record.backendId, record.epoch, record.seq, record.contributorKeyId,
    record.sealedCred⟩

def splitVersion : Bytes → Option (Nat × Bytes)
  | hi :: lo :: body => some (hi.toNat * 256 + lo.toNat, body)
  | _ => none

def checkBody (body : BundleBody) : Except SealError ParsedBundle := do
  let headerFromAad ← (json.headerFromSlice body.headerB64).mapError fun e =>
    .format ("header (aad) parse: " ++ e)
  ensure (headerFromAad = body.header)
    (.format "header / header_b64 mismatch (tampered container)")
  ensure (body.header.formatVersion = formatVersion)
    (.format "header.format_version disagrees with framing")
  ensure (body.header.suite = .v1) (.format "unknown suite ids")
  return ⟨body⟩

def decode (bytes : Bytes) : Except SealError ParsedBundle := do
  let rest ← orErr (magic.isPrefixOf? bytes) (.format "bad magic (not a sealed bundle)")
  let (version, bodyBytes) ← orErr (splitVersion rest) (.format "truncated version field")
  ensure (version = formatVersion) (.format ("unsupported format_version " ++ toString version ++
    " (this build understands " ++ toString formatVersion ++ ")"))
  let body ← (json.bodyFromSlice bodyBytes).mapError fun e => .format ("body parse: " ++ e)
  checkBody json body

variable {json}

theorem decode_encoded (header : Header) (headerAad : Bytes) (slots : List Slot)
    (payload : SealedPayload) (deposits : List DepositRecord) :
    decode json (encodeWithDeposits json header headerAad slots payload deposits) =
      checkBody json ⟨headerAad, header, slots, payload, deposits⟩ := by
  have hframe : magic.isPrefixOf? (encodeWithDeposits json header headerAad slots payload deposits) =
      some (beBytes 2 formatVersion ++
        json.bodyToVec ⟨headerAad, header, slots, payload, deposits⟩) := by
    simp [encodeWithDeposits, List.isPrefixOf?_eq_some_iff_append_eq]
  have hsplit (rest : Bytes) : splitVersion (beBytes 2 formatVersion ++ rest) =
      some (formatVersion, rest) := rfl
  unfold decode
  rw [hframe]
  simp [orErr, hsplit, ensure_pos, json.body_read]

variable {parsed : ParsedBundle}

theorem checkBody_ok {body : BundleBody} :
    checkBody json body = .ok parsed ↔ json.headerFromSlice body.headerB64 = .ok body.header ∧
      body.header.formatVersion = formatVersion ∧ body.header.suite = .v1 ∧ parsed = ⟨body⟩ := by
  simp only [checkBody, eq_ok]
  constructor
  · rintro ⟨_, hread, _, rfl, _, hversion, _, hsuite, rfl⟩
    exact ⟨hread, hversion, hsuite, rfl⟩
  · rintro ⟨hread, hversion, hsuite, rfl⟩
    exact ⟨_, hread, (), rfl, (), hversion, (), hsuite, rfl⟩

theorem decode_ok {bytes : Bytes} (h : decode json bytes = .ok parsed) :
    checkBody json parsed.body = .ok parsed := by
  simp only [decode, bind_eq_ok] at h
  obtain ⟨_, -, _, -, _, -, body, -, hbody⟩ := h
  obtain ⟨-, -, -, rfl⟩ := checkBody_ok.mp hbody
  exact hbody

theorem decode_encoded_ok {header : Header} {headerAad : Bytes} {slots : List Slot}
    {payload : SealedPayload} {deposits : List DepositRecord}
    (h : decode json (encodeWithDeposits json header headerAad slots payload deposits) = .ok parsed) :
    parsed = ⟨⟨headerAad, header, slots, payload, deposits⟩⟩ := by
  rw [decode_encoded] at h
  obtain ⟨-, -, -, rfl⟩ := checkBody_ok.mp h
  rfl

end Basil.Bundle
