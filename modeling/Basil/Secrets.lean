import Basil.Manager

/-!
# Writing and rotating secrets (`core/manager.rs`, `service/secret.rs`)

The TLS recipes generate a certificate together with its private key, and so may write a second
catalog key.
-/

namespace Basil

open Proc

structure TlsMaterial where
  certPem : Bytes
  privateKeyPem : Bytes

structure Recipes where
  draw : Nat → Nat
  fill : (n : Nat) → FixedBytes n
  ageIdentity : Bytes
  selfSignedTls : String → String → Option Bytes → Except ManagerError TlsMaterial

structure GeneratedWrite where
  keyId : String
  value : Bytes
  deriving DecidableEq

def asciiPrintable (n : Nat) : UInt8 := UInt8.ofNat (33 + n % 94)

def hexDigit (n : Nat) : UInt8 := UInt8.ofNat (if n < 10 then 48 + n else 87 + n)

def lowerHex (bytes : Bytes) : Bytes :=
  bytes.flatMap fun b => [hexDigit (b.toNat / 16), hexDigit (b.toNat % 16)]

def BackendManager.tlsPairKeyForCert (m : BackendManager) (certKey : String) : Option String :=
  m.catalog.keys.entries.findSome? fun e =>
    if e.2.generate = some (.selfSignedTlsPairOf certKey) then some e.1 else none

namespace Manager

variable {σ : Type} (m : Manager σ) (recipes : Recipes)

def generateValue (spec : GenerateSpec) : Except ManagerError Bytes :=
  match spec with
  | .asciiPrintable bytes => .ok ((List.range bytes).map fun i => Basil.asciiPrintable (recipes.draw i))
  | .base64 bytes => .ok (m.prims.b64Encode (recipes.fill bytes).bytes).toUTF8.toList
  | .hex bytes => .ok (lowerHex (recipes.fill bytes).bytes)
  | .ageX25519 => .ok recipes.ageIdentity
  | .selfSignedTls commonName validity => do
      let material ← recipes.selfSignedTls commonName validity none
      return material.certPem
  | .selfSignedTlsPairOf _ =>
      .error (.backend (.backend "self-signed-tls-pair-of needs catalog pair context"))

def tlsCertRecipe (certKey : String) : Except ManagerError (String × String) := do
  let entry ← orErr (m.catalog.keys.get? certKey) (.resolve (.unknownKey certKey))
  match entry.generate with
  | some (.selfSignedTls commonName validity) => return (commonName, validity)
  | _ => .error (.backend (.backend
      ("self-signed-tls-pair-of references non-certificate key `" ++ certKey ++ "`")))

def tryExistingValue (keyId : String) : Proc σ ManagerError (Option Bytes) := do
  let routed ← m.route keyId
  check (requireClass "generate" keyId routed.entry.keyClass [.value, .publicKey])
  let read ← attempt ((m.backend routed).kvGet routed.entry.path none)
  match read with
  | .ok kv => return some kv.value
  | .error (.keyNotFound _) => return none
  | .error err => .fail (.backend err)

/-- The writes of a recipe: a certificate brings its private key along when it has to
make one, and a private key always brings its certificate. -/
def generatedWritesForKey (keyId : String) (spec : GenerateSpec) :
    Proc σ ManagerError (List GeneratedWrite) :=
  match spec with
  | .selfSignedTls commonName validity =>
    match m.tlsPairKeyForCert keyId with
    | some pairKey => do
        let existingKey ← m.tryExistingValue pairKey
        let material ← check (recipes.selfSignedTls commonName validity existingKey)
        return (match existingKey with
          | none => [⟨pairKey, material.privateKeyPem⟩]
          | some _ => []) ++ [⟨keyId, material.certPem⟩]
    | none => do
        let material ← check (recipes.selfSignedTls commonName validity none)
        return [⟨keyId, material.certPem⟩]
  | .selfSignedTlsPairOf pairOf => do
      let (commonName, validity) ← check (m.tlsCertRecipe pairOf)
      let material ← check (recipes.selfSignedTls commonName validity none)
      return [⟨keyId, material.privateKeyPem⟩, ⟨pairOf, material.certPem⟩]
  | _ => do
      let value ← check (m.generateValue recipes spec)
      return [⟨keyId, value⟩]

/-- Both reads of the adapter answer the same record; only a value is secret. -/
def get (keyId : String) (version : Option Nat) : Proc σ ManagerError KvValue := do
  let routed ← m.route keyId
  check (requireClass "get" keyId routed.entry.keyClass [.value, .publicKey])
  if routed.entry.keyClass = .value then
    ((m.backend routed).kvGetSecret routed.entry.path version).mapErr .backend
  else ((m.backend routed).kvGet routed.entry.path version).mapErr .backend

def set (keyId : String) (value : Bytes) : Proc σ ManagerError Nat := do
  let routed ← m.route keyId
  check (requireClass "set" keyId routed.entry.keyClass [.value])
  ((m.backend routed).kvPut routed.entry.path value).mapErr .backend

def putWrites (keyId : String) : List GeneratedWrite → Option Nat → Proc σ ManagerError (Option Nat)
  | [], rotated => pure rotated
  | write :: writes, rotated => do
      let routed ← m.route write.keyId
      check (requireClass "rotate" write.keyId routed.entry.keyClass [.value, .publicKey])
      let version ← ((m.backend routed).kvPut routed.entry.path write.value).mapErr .backend
      putWrites keyId writes (if write.keyId = keyId then some version else rotated)

def rotateValue (keyId : String) (routed : Routed) : Proc σ ManagerError Nat := do
  let spec ← check (orErr routed.entry.generate (.valueRotateNeedsSet keyId))
  let writes ← m.generatedWritesForKey recipes keyId spec
  let rotated ← m.putWrites keyId writes none
  check (orErr rotated (.backend (.backend "generate recipe produced no primary value")))

/-- A version bump, then the grace floor. A backend without version configuration keeps
its bump; any other failure to set the floor fails the request. -/
def rotateCrypto (limits : BrokerLimits) (routed : Routed) : Proc σ ManagerError Nat := do
  let newVersion ← ((m.backend routed).rotate routed.entry.path).mapErr .backend
  let configured ← attempt
    ((m.backend routed).configureVersions routed.entry.path (some (limits.graceFloor newVersion)) none)
  match configured with
  | .error (.unsupported _) | .ok () => return newVersion
  | .error err => .fail (.backend err)

def rotate (keyId : String) (limits : BrokerLimits) : Proc σ ManagerError Nat := do
  let routed ← m.route keyId
  check (requireClass "rotate" keyId routed.entry.keyClass [.asymmetric, .symmetric, .value])
  check (ensure (routed.entry.nixCache = none) (.nixCacheRotationForbidden keyId))
  check (ensure (¬ (routed.engine = .kv2 ∧ routed.entry.keyClass ≠ .value)) (.unsupported
    "rotate: a value-store (kv2) crypto key is re-provisioned out-of-band, not rotated via the broker"))
  if routed.entry.keyClass = .value then m.rotateValue recipes keyId routed
  else m.rotateCrypto limits routed

/-! ### Retention -/

def retentionFloor (retainVersions : Option Nat) (latest : Nat) : Option Nat :=
  retainVersions.map fun retain => if latest - retain < 1 then 1 else latest - retain

def sweepRetention (keyId : String) (retainVersions : Option Nat) : Proc σ ManagerError Unit := do
  let routed ← m.route keyId
  check (requireClass "rotate" keyId routed.entry.keyClass [.asymmetric, .symmetric])
  let metadata ← ((m.backend routed).keyMetadata routed.entry.path).mapErr .backend
  match retentionFloor retainVersions metadata.latestVersion with
  | none => return ()
  | some floor =>
      ((m.backend routed).configureVersions routed.entry.path none (some floor)).mapErr .backend

def sweepAllRetention (retainVersions : Option Nat) : Proc σ ManagerError Unit :=
  if retainVersions = none then pure ()
  else
    (m.catalog.keys.entries.filter fun e =>
      decide (e.2.keyClass = .asymmetric ∨ e.2.keyClass = .symmetric)).forM
        fun e => m.sweepRetention e.1 retainVersions

end Manager

namespace Secrets

variable {σ : Type} (m : Manager σ) (limits : BrokerLimits)

def setSecret (g : Generation) (ctx : RequestContext) (secretId : String) (value : Bytes) :
    Proc σ Status Nat := do
  let _ ← check (authorizeInGeneration g ctx .set secretId)
  check (ensure (value.length ≤ limits.maxPayloadSize)
    (payloadTooLarge "set_secret" "set payload exceeds configured cap"))
  (m.set secretId value).mapErr (managerStatus "set_secret")

def rotateSecret (recipes : Recipes) (g : Generation) (ctx : RequestContext) (secretId : String) :
    Proc σ Status Nat := do
  let _ ← check (authorizeInGeneration g ctx .rotate secretId)
  (m.rotate recipes secretId limits).mapErr (managerStatus "rotate_secret")

end Secrets

end Basil
