import Basil.Lib.Machine
import Basil.KmsCommon
import Basil.Provider

/-!
# The Vault backend (`core/backend/transit.rs`, `core/backend/vault.rs`)

JSON bodies and the base64 of their plain fields are left out. The `vault:vN:` texts are kept: the
adapter takes them apart and puts them together.
-/

namespace Basil

open Proc Text

inductive TransitType where
  | ed25519
  | rsa2048
  | rsa3072
  | rsa4096
  | ecdsaP256
  | ecdsaP384
  | ecdsaP521
  | aes256Gcm96
  | chacha20Poly1305
  deriving DecidableEq

def TransitType.token : TransitType → String
  | ed25519 => "ed25519"
  | rsa2048 => "rsa-2048"
  | rsa3072 => "rsa-3072"
  | rsa4096 => "rsa-4096"
  | ecdsaP256 => "ecdsa-p256"
  | ecdsaP384 => "ecdsa-p384"
  | ecdsaP521 => "ecdsa-p521"
  | aes256Gcm96 => "aes256-gcm96"
  | chacha20Poly1305 => "chacha20-poly1305"

def TransitType.signs : TransitType → Bool
  | aes256Gcm96 | chacha20Poly1305 => false
  | _ => true

inductive HashAlgorithm where
  | sha2_256
  | sha2_384
  | sha2_512
  deriving DecidableEq

structure SignParams where
  pkcs1v15 : Bool
  hashAlgorithm : Option HashAlgorithm
  deriving DecidableEq

def insertSignOptions : SignOptions → SignParams
  | .rs256Pkcs1v15Sha256 => ⟨true, some .sha2_256⟩
  | .es256 => ⟨false, some .sha2_256⟩
  | .es384 => ⟨false, some .sha2_384⟩
  | .es512 => ⟨false, some .sha2_512⟩
  | .default => ⟨false, none⟩

/-- The cryptography behind the engine. A number argument is the state of the random
source: no two draws of one vault use the same number. -/
structure TransitCrypto (κ : Type) extends EcdsaCodec where
  uuidSimple : Nat → String
  keygen : TransitType → Nat → κ
  fromPkcs8 : TransitType → Bytes → Option κ
  publicKeyField : κ → String
  sign : κ → SignParams → Bytes → Nat → Bytes
  verify : κ → SignParams → Bytes → Bytes → Bool
  encrypt : κ → Bytes → Option Bytes → Nat → Bytes
  decrypt : κ → Bytes → Option Bytes → Option Bytes

structure TransitKey (κ : Type) where
  keyType : TransitType
  first : κ
  later : List κ
  minDecryptionVersion : Nat

namespace TransitKey

variable {κ : Type} (key : TransitKey κ)

def latest : Nat := key.later.length + 1

def newest : κ := key.later.getLast?.getD key.first

def version? (n : Nat) : Option κ := if n = 0 then none else (key.first :: key.later)[n - 1]?

def bump (k : κ) : TransitKey κ := { key with later := key.later ++ [k] }

def floorAt (floor : Nat) : TransitKey κ := { key with minDecryptionVersion := floor }

/-- The versions that key info lists: those below the floor are archived. -/
def listed : List (Nat × κ) :=
  ((key.first :: key.later).zipIdx 1).filterMap fun (k, n) =>
    if key.minDecryptionVersion ≤ n then some (n, k) else none

@[simp] theorem latest_bump (k : κ) : (key.bump k).latest = key.latest + 1 := by
  simp [bump, latest]

theorem version?_latest : key.version? key.latest = some key.newest := by
  rw [version?, latest, if_neg (Nat.succ_ne_zero _), Nat.add_sub_cancel]
  rcases List.eq_nil_or_concat key.later with hnil | ⟨_, _, hlast⟩
  · simp [newest, hnil]
  · simp [newest, hlast]

end TransitKey

/-! ### The `vault:vN:` text -/

def vaultText (version : Nat) (b64 : String) : String :=
  "vault:v" ++ toString version ++ ":" ++ b64

def splitVaultWrapped (prims : Primitives) (wrapped : String) : Except BackendError (Nat × Bytes) := do
  let malformed := BackendError.protocol ("malformed transit ciphertext `" ++ wrapped ++ "`")
  let (scheme, rest) ← orErr (splitOnce ':' wrapped) malformed
  let (version, b64) ← orErr (splitOnce ':' rest) malformed
  ensure (scheme = "vault") malformed
  let version ← orErr ((stripLead "v" version).bind (parseUnsigned u32Max))
    (.protocol ("bad version in `" ++ wrapped ++ "`"))
  let bytes ← orErr (prims.b64Decode b64) (.protocol "transit ciphertext not base64")
  return (version, bytes)

structure Primitives.B64Sound (prims : Primitives) : Prop where
  decode_encode : ∀ bytes, prims.b64Decode (prims.b64Encode bytes) = some bytes
  no_colon : ∀ bytes, ':' ∉ (prims.b64Encode bytes).toList

theorem afterLast_vaultText {b64 : String} (h : ':' ∉ b64.toList) (version : Nat) :
    afterLast ':' (vaultText version b64) = b64 := afterLast_append h

theorem splitVaultWrapped_vaultText {prims : Primitives} (hb64 : prims.B64Sound) (version : Nat)
    (bytes : Bytes) :
    splitVaultWrapped prims (vaultText version (prims.b64Encode bytes)) =
      if version ≤ u32Max then .ok (version, bytes)
      else .error (.protocol ("bad version in `" ++ vaultText version (prims.b64Encode bytes) ++ "`")) := by
  have hcolon : ':' ∉ ("v" ++ toString version).toList := by
    have hdigits := not_mem_toString (c := ':') (by decide) version
    rw [String.toList_append, List.mem_append]
    rintro (hv | hn)
    · exact absurd hv (by decide)
    · exact hdigits hn
  have hscheme : splitOnce ':' (vaultText version (prims.b64Encode bytes)) =
      some ("vault", "v" ++ toString version ++ ":" ++ prims.b64Encode bytes) := by
    have htext : vaultText version (prims.b64Encode bytes) =
        "vault" ++ String.ofList [':'] ++
          ("v" ++ toString version ++ ":" ++ prims.b64Encode bytes) := by
      rw [← String.toList_inj]
      simp [vaultText]
    rw [htext]
    exact splitOnce_append (by decide)
  have hparts : splitOnce ':' ("v" ++ toString version ++ ":" ++ prims.b64Encode bytes) =
      some ("v" ++ toString version, prims.b64Encode bytes) := splitOnce_append hcolon
  have hnumber : (stripLead "v" ("v" ++ toString version)).bind (parseUnsigned u32Max) =
      if version ≤ u32Max then some version else none := by
    rw [stripLead_append, Option.bind_some, parseUnsigned_toString]
  simp only [splitVaultWrapped, hscheme, hparts, hnumber, hb64.decode_encode, orErr, ok_bind, ensure]
  by_cases hversion : version ≤ u32Max
  · rw [if_pos hversion, if_pos hversion]
    rfl
  · rw [if_neg hversion, if_neg hversion]
    rfl

/-! ### The engine -/

/-- The endpoints of the server that the adapter calls. The server is no part of the repository:
what a result assumes of it is stated in `Laws`. -/
structure TransitEngine (κ ν : Type) where
  readKey : String → Proc ν BackendError (TransitKey κ)
  createKey : String → TransitType → Proc ν BackendError Unit
  importKey : String → TransitType → Bytes → Proc ν BackendError Unit
  rotateKey : String → Proc ν BackendError Unit
  configKey : String → Option Nat → Option Nat → Proc ν BackendError Unit
  sign : String → SignParams → Bytes → Proc ν BackendError String
  verify : String → SignParams → Bytes → String → Proc ν BackendError Bool
  encrypt : String → Bytes → Option Bytes → Proc ν BackendError String
  decrypt : String → String → Option Bytes → Proc ν BackendError Bytes
  kvRead : String → Option Nat → Proc ν BackendError KvValue
  kvWrite : String → Bytes → Proc ν BackendError Nat
  uuid : Proc ν BackendError String

/-- `keys` are the server's transit keys. Nothing is assumed of a call that fails. -/
structure TransitEngine.Laws {κ ν : Type} (E : TransitEngine κ ν) (C : TransitCrypto κ)
    (prims : Primitives) (keys : ν → String → Option (TransitKey κ)) : Prop where
  read_returns_key : ∀ {name v key v'}, (E.readKey name).exec v = (.ok key, v') →
    keys v name = some key ∧ keys v' name = some key
  sign_uses_newest : ∀ {name params input v text v'},
    (E.sign name params input).exec v = (.ok text, v') →
    ∃ key draw, keys v name = some key ∧
      text = vaultText key.latest (prims.b64Encode (C.sign key.newest params input draw))
  rotate_appends : ∀ {name v u v'}, (E.rotateKey name).exec v = (.ok u, v') →
    ∃ key k, keys v name = some key ∧ keys v' name = some (key.bump k)
  /-- Either field may be given. The versions stay, and the decryption floor is the one given. -/
  config_sets_floor : ∀ {name floor available v u v'},
    (E.configKey name floor available).exec v = (.ok u, v') →
    ∃ key, keys v name = some key ∧
      keys v' name = some (key.floorAt (floor.getD key.minDecryptionVersion))
  config_supported : ∀ {name floor available v op v'},
    (E.configKey name floor available).exec v ≠ (.error (.unsupported op), v')

/-! ### A server in memory -/

def httpNotFound : BackendError := .keyNotFound "HTTP 404 Not Found"
def httpBadRequest : BackendError := .backend "HTTP 400 Bad Request"

structure Vault (κ : Type) where
  keys : String → Option (TransitKey κ)
  kv : String → List Bytes
  draws : Nat

namespace Vault

variable {κ : Type} (C : TransitCrypto κ) (prims : Primitives)

def put (v : Vault κ) (name : String) (key : TransitKey κ) : Vault κ :=
  { v with keys := Function.update v.keys name (some key) }

def drawn (v : Vault κ) : Vault κ := { v with draws := v.draws + 1 }

@[simp] theorem put_keys_self (v : Vault κ) (name : String) (key : TransitKey κ) :
    (v.put name key).keys name = some key := by
  simp [put]

@[simp] theorem drawn_keys (v : Vault κ) : v.drawn.keys = v.keys := rfl

def SameKeys (v v' : Vault κ) : Prop := v'.keys = v.keys ∧ v.draws ≤ v'.draws

instance : Std.Refl (@SameKeys κ) := ⟨fun _ => ⟨rfl, le_refl _⟩⟩

instance : IsTrans (Vault κ) SameKeys :=
  ⟨fun _ _ _ h h' => ⟨h'.1.trans h.1, h.2.trans h'.2⟩⟩

def readKey (name : String) : Proc (Vault κ) BackendError (TransitKey κ) :=
  .ofFun fun v => (orErr (v.keys name) httpNotFound, v)

def createKey (name : String) (keyType : TransitType) : Proc (Vault κ) BackendError Unit :=
  .ofFun fun v =>
    match v.keys name with
    | some _ => (.ok (), v)
    | none => (.ok (), (v.put name ⟨keyType, C.keygen keyType v.draws, [], 1⟩).drawn)

def importKey (name : String) (keyType : TransitType) (der : Bytes) :
    Proc (Vault κ) BackendError Unit :=
  .ofFun fun v =>
    match v.keys name, C.fromPkcs8 keyType der with
    | none, some key => (.ok (), v.put name ⟨keyType, key, [], 1⟩)
    | _, _ => (.error httpBadRequest, v)

def rotateKey (name : String) : Proc (Vault κ) BackendError Unit :=
  .ofFun fun v =>
    match v.keys name with
    | some key => (.ok (), (v.put name (key.bump (C.keygen key.keyType v.draws))).drawn)
    | none => (.error httpBadRequest, v)

/-- The floor of the archived versions, `_minAvailableVersion`, is not kept: no version is pruned. -/
def configKey (name : String) (minDecryptionVersion _minAvailableVersion : Option Nat) :
    Proc (Vault κ) BackendError Unit :=
  .ofFun fun v =>
    match v.keys name with
    | some key =>
      let floor := minDecryptionVersion.getD key.minDecryptionVersion
      if floor ≤ key.latest then (.ok (), v.put name (key.floorAt floor))
      else (.error httpBadRequest, v)
    | none => (.error httpBadRequest, v)

def sign (name : String) (params : SignParams) (input : Bytes) : Proc (Vault κ) BackendError String :=
  .ofFun fun v =>
    match v.keys name with
    | some key =>
      if key.keyType.signs = true then
        (.ok (vaultText key.latest (prims.b64Encode (C.sign key.newest params input v.draws))), v.drawn)
      else (.error httpBadRequest, v)
    | none => (.error httpBadRequest, v)

/-- The version that a `vault:vN:` text names, unless it is below the floor or unknown. -/
def namedVersion (key : TransitKey κ) (text : String) : Option (κ × Bytes) :=
  match splitVaultWrapped prims text with
  | .ok (version, bytes) =>
    if version < key.minDecryptionVersion then none
    else (key.version? version).map fun k => (k, bytes)
  | .error _ => none

def verify (name : String) (params : SignParams) (input : Bytes) (signature : String) :
    Proc (Vault κ) BackendError Bool :=
  .ofFun fun v =>
    match (v.keys name).bind fun key => namedVersion prims key signature with
    | some (k, bytes) => (.ok (C.verify k params input bytes), v)
    | none => (.error httpBadRequest, v)

def encrypt (name : String) (plaintext : Bytes) (aad : Option Bytes) :
    Proc (Vault κ) BackendError String :=
  .ofFun fun v =>
    match v.keys name with
    | some key =>
      if key.keyType.signs = true then (.error httpBadRequest, v)
      else (.ok (vaultText key.latest
        (prims.b64Encode (C.encrypt key.newest plaintext aad v.draws))), v.drawn)
    | none => (.error httpBadRequest, v)

def decrypt (name : String) (ciphertext : String) (aad : Option Bytes) :
    Proc (Vault κ) BackendError Bytes :=
  .ofFun fun v =>
    match (v.keys name).bind fun key => namedVersion prims key ciphertext with
    | some (k, bytes) => (orErr (C.decrypt k bytes aad) httpBadRequest, v)
    | none => (.error httpBadRequest, v)

def kvRead (path : String) (version : Option Nat) : Proc (Vault κ) BackendError KvValue :=
  .ofFun fun v =>
    -- version 0, like no version, asks for the latest
    let n := if version.getD 0 = 0 then (v.kv path).length else version.getD 0
    let value := if n = 0 then none else (v.kv path)[n - 1]?
    (orErr (value.map fun bytes => ⟨bytes, min n u32Max⟩) httpNotFound, v)

def kvWrite (path : String) (value : Bytes) : Proc (Vault κ) BackendError Nat :=
  .ofFun fun v =>
    (.ok (min ((v.kv path).length + 1) u32Max),
      { v with kv := Function.update v.kv path (v.kv path ++ [value]) })

def freshUuid : Proc (Vault κ) BackendError String :=
  .ofFun fun v => (.ok (C.uuidSimple v.draws), v.drawn)

def engine : TransitEngine κ (Vault κ) where
  readKey := readKey
  createKey := createKey C
  importKey := importKey C
  rotateKey := rotateKey C
  configKey := configKey
  sign := sign C prims
  verify := verify C prims
  encrypt := encrypt C prims
  decrypt := decrypt C prims
  kvRead := kvRead
  kvWrite := kvWrite
  uuid := freshUuid C

theorem engine_laws : (engine C prims).Laws C prims Vault.keys where
  read_returns_key := by
    intro name v key v' h
    change (orErr (v.keys name) httpNotFound, v) = (.ok key, v') at h
    cases hkey : v.keys name with
    | none => simp [hkey, orErr] at h
    | some found =>
      rw [hkey] at h
      cases h
      exact ⟨rfl, hkey⟩
  sign_uses_newest := by
    intro name params input v text v' h
    simp only [engine, sign, exec_ofFun] at h
    cases hkey : v.keys name with
    | none => simp [hkey] at h
    | some key =>
      simp only [hkey] at h
      split at h
      · cases h
        exact ⟨key, v.draws, rfl, rfl⟩
      · cases h
  rotate_appends := by
    intro name v u v' h
    simp only [engine, rotateKey, exec_ofFun] at h
    cases hkey : v.keys name with
    | none => simp [hkey] at h
    | some key =>
      simp only [hkey] at h
      cases h
      exact ⟨key, _, rfl, put_keys_self v name _⟩
  config_sets_floor := by
    intro name floor available v u v' h
    simp only [engine, configKey, exec_ofFun] at h
    cases hkey : v.keys name with
    | none => simp [hkey] at h
    | some key =>
      simp only [hkey] at h
      split at h
      · cases h
        exact ⟨key, rfl, put_keys_self v name _⟩
      · cases h
  config_supported := by
    intro name floor available v op v' h
    simp only [engine, configKey, exec_ofFun] at h
    cases hkey : v.keys name with
    | none => simp [hkey, httpBadRequest] at h
    | some key =>
      simp only [hkey] at h
      split at h <;> cases h

end Vault

/-! ### The adapter -/

namespace Transit

def sigVersion : Nat := 1

def ed25519SeedLen : Nat := 32

def pkcs8Ed25519Prefix : Bytes :=
  [0x30, 0x2e, 0x02, 0x01, 0x00, 0x30, 0x05, 0x06, 0x03, 0x2b, 0x65, 0x70, 0x04, 0x22, 0x04, 0x20]

def transitKeyType : KeyType → Option TransitType
  | .ed25519 | .ed25519Nkey => some .ed25519
  | .rsa2048 => some .rsa2048
  | .ecdsaP256 => some .ecdsaP256
  | .ecdsaP384 => some .ecdsaP384
  | .ecdsaP521 => some .ecdsaP521
  | .mlDsa44 | .mlDsa65 | .mlDsa87 | .mlKem512 | .mlKem768 | .mlKem1024 => none

def transitTypeToWire (keyType : TransitType) : Except BackendError KeyType :=
  match keyType with
  | .ed25519 => .ok .ed25519
  | .rsa2048 | .rsa3072 | .rsa4096 => .ok .rsa2048
  | .ecdsaP256 => .ok .ecdsaP256
  | .ecdsaP384 => .ok .ecdsaP384
  | .ecdsaP521 => .ok .ecdsaP521
  | other => .error (.protocol ("transit key type `" ++ other.token ++ "` has no wire KeyType"))

def importTargetPkcs8Der (keyType : KeyType) (material : KeyMaterial) : Except BackendError Bytes :=
  match material with
  | .pkcs8Der der => .ok der
  | .ed25519Seed seed =>
    if keyType = .ed25519 ∨ keyType = .ed25519Nkey then do
      ensure (seed.length = ed25519SeedLen) (.backend
        ("ed25519 seed must be 32 bytes, got " ++ toString seed.length))
      return pkcs8Ed25519Prefix ++ seed
    else .error (.backend ("import key type `" ++ keyType.token ++
      "` requires PKCS#8 DER material; raw seed material is Ed25519-only"))

variable {κ ν : Type} (E : TransitEngine κ ν) (C : TransitCrypto κ) (prims : Primitives)

def latestVersion (key : TransitKey κ) : Nat := min key.latest u32Max

def publicKeyFieldBytes (field : String) : Except BackendError Bytes :=
  match stripLead "-----BEGIN " (trim field) with
  | some _ => .ok (trim field).toUTF8.toList
  | none => orErr (prims.b64Decode (trim field)) (.protocol "public_key not base64")

def publicKeyBytes (key : TransitKey κ) : Except BackendError Bytes := do
  let k ← orErr (key.version? (latestVersion key)) (.protocol "no public_key in key info")
  publicKeyFieldBytes prims (C.publicKeyField k)

def publicHalf (k : κ) : Except BackendError Bytes :=
  publicKeyFieldBytes prims (C.publicKeyField k)

theorem publicKeyBytes_newest {C : TransitCrypto κ} {prims : Primitives} {key : TransitKey κ}
    (h : key.latest ≤ u32Max) : publicKeyBytes C prims key = publicHalf C prims key.newest := by
  rw [publicKeyBytes, latestVersion, Nat.min_eq_left h, key.version?_latest]
  simp only [orErr, ok_bind, publicHalf]

def readPublicKey (keyId : String) : Proc ν BackendError Bytes := do
  let key ← E.readKey keyId
  check (publicKeyBytes C prims key)

def publicKeysByVersion (key : TransitKey κ) : Except BackendError (OrdMap Nat Bytes) := do
  let versions := if key.keyType.signs then key.listed.filter (·.1 ≤ u32Max) else []
  let out ← versions.foldlM (fun out version => do
    let bytes ← publicKeyFieldBytes prims (C.publicKeyField version.2)
    return out.insert version.1 bytes) OrdMap.empty
  ensure (out.entries ≠ []) (.protocol "no public_key in any key version")
  return out

def readPublicKeys (keyId : String) : Proc ν BackendError (OrdMap Nat Bytes) := do
  let key ← E.readKey keyId
  check (publicKeysByVersion C prims key)

def readKeyMetadata (keyId : String) : Proc ν BackendError KeyMetadata := do
  let key ← E.readKey keyId
  return ⟨(transitTypeToWire key.keyType).toOption, latestVersion key⟩

def createNamedKey (keyId : String) (keyType : KeyType) : Proc ν BackendError NewKey := do
  let vaultType ← check (orErr (transitKeyType keyType) (.unsupportedKeyType keyType.token))
  E.createKey keyId vaultType
  let publicKey ← readPublicKey E C prims keyId
  return ⟨keyId, publicKey⟩

def newKey (keyType : KeyType) : Proc ν BackendError NewKey := do
  let vaultType ← check (orErr (transitKeyType keyType) (.unsupportedKeyType keyType.token))
  let uuid ← E.uuid
  let keyId := "sv-" ++ uuid
  E.createKey keyId vaultType
  let publicKey ← readPublicKey E C prims keyId
  return ⟨keyId, publicKey⟩

def readPublicKeyWithMeta (keyId : String) : Proc ν BackendError PublicKey := do
  let key ← E.readKey keyId
  let publicKey ← check (publicKeyBytes C prims key)
  let keyType ← check (transitTypeToWire key.keyType)
  return ⟨publicKey, keyType, latestVersion key⟩

def importKey (keyId : String) (keyType : KeyType) (material : KeyMaterial) :
    Proc ν BackendError NewKey := do
  let vaultType ← check (orErr (transitKeyType keyType) (.unsupportedKeyType keyType.token))
  let der ← check (importTargetPkcs8Der keyType material)
  E.importKey keyId vaultType der
  let publicKey ← readPublicKey E C prims keyId
  return ⟨keyId, publicKey⟩

def signWithOptions (keyId : String) (message : Bytes) (options : SignOptions) :
    Proc ν BackendError Bytes := do
  let sig ← E.sign keyId (insertSignOptions options) message
  let signature ← check (orErr (prims.b64Decode (afterLast ':' sig))
    (.protocol "signature not base64"))
  check (C.ecdsaDerToRaw signature options)

def verifyWithOptions (keyId : String) (message signature : Bytes) (options : SignOptions) :
    Proc ν BackendError Bool := do
  let signature ← check (C.ecdsaRawToDer signature options)
  E.verify keyId (insertSignOptions options) message
    (vaultText sigVersion (prims.b64Encode signature))

def encrypt (keyId : String) (algorithm : AeadAlgorithm) (plaintext : Bytes) (aad : Option Bytes) :
    Proc ν BackendError CiphertextEnvelope := do
  let wrapped ← E.encrypt keyId plaintext aad
  let (keyVersion, ciphertext) ← check (splitVaultWrapped prims wrapped)
  return ⟨algorithm, keyVersion, [], ciphertext⟩

def decrypt (keyId : String) (envelope : CiphertextEnvelope) (aad : Option Bytes) :
    Proc ν BackendError Bytes :=
  (E.decrypt keyId
    (vaultText envelope.keyVersion (prims.b64Encode envelope.ciphertext)) aad).mapErr fun
      | .backend _ => .decryptFailed
      | other => other

def rotate (keyId : String) : Proc ν BackendError Nat := do
  E.rotateKey keyId
  let key ← E.readKey keyId
  return latestVersion key

def configureVersions (keyId : String) (minDecryptionVersion minAvailableVersion : Option Nat) :
    Proc ν BackendError Unit :=
  E.configKey keyId minDecryptionVersion minAvailableVersion

/-- The transit backend over a server. -/
def adapter : Backend ν where
  newKey := newKey E C prims
  createNamedKey := createNamedKey E C prims
  publicKey := readPublicKey E C prims
  publicKeyWithMeta := readPublicKeyWithMeta E C prims
  keyMetadata := readKeyMetadata E
  publicKeys := readPublicKeys E C prims
  importKey := importKey E C prims
  sign := fun keyId message => signWithOptions E C prims keyId message .default
  signWithOptions := signWithOptions E C prims
  verify := fun keyId message signature => verifyWithOptions E C prims keyId message signature .default
  verifyWithOptions := verifyWithOptions E C prims
  encrypt := encrypt E prims
  decrypt := decrypt E prims
  rotate := rotate E
  kvGet := E.kvRead
  kvGetSecret := E.kvRead
  kvPut := E.kvWrite
  configureVersions := configureVersions E

abbrev backend : Backend (Vault κ) := adapter (Vault.engine C prims) C prims

/-! ### What each call does to the named key -/

section Specs

variable {C prims} {v : Vault κ} {name : String} {key : TransitKey κ}

theorem rotate_exec (h : v.keys name = some key) :
    (rotate (Vault.engine C prims) name).exec v =
      (.ok (min (key.latest + 1) u32Max), (v.put name (key.bump (C.keygen key.keyType v.draws))).drawn) := by
  have hrotate : ((Vault.engine C prims).rotateKey name).exec v =
      (.ok (), (v.put name (key.bump (C.keygen key.keyType v.draws))).drawn) := by
    simp [Vault.engine, Vault.rotateKey, h]
  have hread : ∀ (w : Vault κ) (k : TransitKey κ),
      ((Vault.engine C prims).readKey name).exec (w.put name k).drawn =
        (.ok k, (w.put name k).drawn) := by
    intro w k
    simp [Vault.engine, Vault.readKey, orErr]
  rw [rotate, exec_bind_of_ok hrotate, exec_bind_of_ok (hread v _)]
  simp [latestVersion]

theorem configureVersions_exec (C : TransitCrypto κ) (prims : Primitives) (h : v.keys name = some key)
    {floor : Nat} (hfloor : floor ≤ key.latest) :
    (configureVersions (Vault.engine C prims) name (some floor) none).exec v =
      (.ok (), v.put name (key.floorAt floor)) := by
  simp [configureVersions, Vault.engine, Vault.configKey, h, hfloor]

theorem signWithOptions_ok {E : TransitEngine κ ν} {keys : ν → String → Option (TransitKey κ)}
    (hlaws : E.Laws C prims keys) (hb64 : prims.B64Sound) {message signature : Bytes}
    {options : SignOptions} {v v' : ν}
    (h : (signWithOptions E C prims name message options).exec v = (.ok signature, v')) :
    ∃ key draw, keys v name = some key ∧
      C.ecdsaDerToRaw (C.sign key.newest (insertSignOptions options) message draw) options =
        .ok signature := by
  simp only [signWithOptions, exec_ok] at h
  obtain ⟨_, _, hsign, _, _, ⟨hdecode, rfl⟩, hraw, rfl⟩ := h
  obtain ⟨key, draw, hkey, rfl⟩ := hlaws.sign_uses_newest hsign
  rw [afterLast_vaultText (hb64.no_colon _), hb64.decode_encode] at hdecode
  cases hdecode
  exact ⟨key, draw, hkey, hraw⟩

theorem signWithOptions_keeps (name : String) (message : Bytes) (options : SignOptions) :
    Keeps Vault.SameKeys (signWithOptions (Vault.engine C prims) C prims name message options) := by
  apply keeps_bind
  · intro v
    simp only [Vault.engine, Vault.sign, exec_ofFun]
    split
    · split
      · exact ⟨rfl, Nat.le_succ _⟩
      · exact refl_of Vault.SameKeys v
    · exact refl_of Vault.SameKeys v
  · intro text
    apply keeps_bind
    · exact keeps_check _
    · intro bytes
      exact keeps_check _

theorem verifyWithOptions_exec (hb64 : prims.B64Sound) (h : v.keys name = some key)
    {message signature der : Bytes} {options : SignOptions}
    (hder : C.ecdsaRawToDer signature options = .ok der) :
    (verifyWithOptions (Vault.engine C prims) C prims name message signature options).exec v =
      (if key.minDecryptionVersion ≤ 1 then
        .ok (C.verify key.first (insertSignOptions options) message der)
      else .error httpBadRequest, v) := by
  have hsplit : splitVaultWrapped prims (vaultText sigVersion (prims.b64Encode der)) = .ok (1, der) :=
    splitVaultWrapped_vaultText hb64 _ der
  have hnamed : Vault.namedVersion prims key (vaultText sigVersion (prims.b64Encode der)) =
      if key.minDecryptionVersion ≤ 1 then some (key.first, der) else none := by
    rw [Vault.namedVersion, hsplit]
    by_cases hfloor : key.minDecryptionVersion ≤ 1
    · have hnot : ¬ 1 < key.minDecryptionVersion := by omega
      simp [hfloor, hnot, TransitKey.version?]
    · have hlow : 1 < key.minDecryptionVersion := by omega
      simp [hfloor, hlow]
  rw [verifyWithOptions, exec_check_step hder rfl]
  simp only [Vault.engine, Vault.verify, exec_ofFun, h, Option.bind_some, hnamed]
  by_cases hfloor : key.minDecryptionVersion ≤ 1
  · simp [hfloor]
  · simp [hfloor]

theorem verifyWithOptions_keeps (name : String) (message signature : Bytes) (options : SignOptions) :
    Keeps Vault.SameKeys
      (verifyWithOptions (Vault.engine C prims) C prims name message signature options) := by
  apply keeps_bind
  · exact keeps_check _
  · intro der v
    simp only [Vault.engine, Vault.verify, exec_ofFun]
    split <;> exact refl_of Vault.SameKeys v

end Specs

end Transit

end Basil
