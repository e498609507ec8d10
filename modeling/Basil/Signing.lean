import Basil.Lib.Machine
import Basil.Manager

/-!
# The signing service (`service/signing.rs`)

`new_key`, `sign` and `verify` load the generation twice: `authorize` decides the operation in the
one it loads, and a provider-dispatched request decides the software custody gate in the one
`provider_gate` loads later.
-/

namespace Basil

open Proc

/-! ### Wire values (`service/shared.rs`) -/

def wireKeyType (value : Int) : Option (Option KeyType) :=
  match value with
  | 0 => some none
  | 1 => some (some .ed25519)
  | 2 => some (some .ed25519Nkey)
  | 3 => some (some .rsa2048)
  | 4 => some (some .mlDsa44)
  | 5 => some (some .mlDsa65)
  | 6 => some (some .mlDsa87)
  | 7 => some (some .mlKem512)
  | 8 => some (some .mlKem768)
  | 9 => some (some .mlKem1024)
  | 10 => some (some .ecdsaP256)
  | 11 => some (some .ecdsaP384)
  | 12 => some (some .ecdsaP521)
  | _ => none

def requestKeyType (value : Int) (op : String) : Except Status KeyType := do
  let wire ← orErr (wireKeyType value) (invalidRequest op "unknown key type")
  let keyType ← orErr wire (invalidRequest op "missing key type")
  match keyType with
  | .mlDsa44 | .mlDsa65 | .mlDsa87 => .error (unsupportedAlgorithm op
      "ML-DSA keys are provisioned from a software-custody catalog entry, not this path")
  | .mlKem512 | .mlKem768 | .mlKem1024 => .error (unsupportedAlgorithm op
      "ML-KEM keys are provisioned from a software-custody catalog entry, not this path")
  | classical => return classical

def ensureMlDsaKeyTypeMatches (value : Int) (algorithm : SignatureAlgorithm) (op : String) :
    Except Status Unit := do
  let wire ← orErr (wireKeyType value) (invalidRequest op "unknown key type")
  ensure ((wire, algorithm) ∈ [(some .mlDsa44, .mlDsa44), (some .mlDsa65, .mlDsa65),
      (some .mlDsa87, .mlDsa87)])
    (invalidRequest op "key type does not match the catalog ML-DSA key")

def ensureMlKemKeyTypeMatches (value : Int) (kem : KemAlgorithm) (op : String) :
    Except Status Unit := do
  let wire ← orErr (wireKeyType value) (invalidRequest op "unknown key type")
  ensure ((wire, kem) ∈ [(some .mlKem512, .mlKem512), (some .mlKem768, .mlKem768),
      (some .mlKem1024, .mlKem1024)])
    (invalidRequest op "key type does not match the catalog ML-KEM key")

/-- Every known wire algorithm is accepted: the scheme comes from the key's catalog type. -/
def ensureSupportedSigningAlgorithm (value : Int) (op : String) : Except Status Unit :=
  ensure (0 ≤ value ∧ value ≤ 7) (invalidRequest op "unknown signing algorithm")

def KeyMaterial.len : KeyMaterial → Nat
  | ed25519Seed seed => seed.length
  | pkcs8Der der => der.length

def requestMaterial (material : Option (Option KeyMaterial)) (op : String) :
    Except Status KeyMaterial := do
  let message ← orErr material (invalidRequest op "missing key material")
  orErr message (invalidRequest op "missing key material")

/-! ### Requests -/

structure NewKeyRequest where
  keyId : String
  keyType : Int
  deriving DecidableEq

structure ImportRequest where
  keyId : String
  keyType : Int
  material : Option (Option KeyMaterial)
  deriving DecidableEq

structure SignRequest where
  keyId : String
  algorithm : Int
  message : Bytes
  deriving DecidableEq

structure VerifyRequest where
  keyId : String
  algorithm : Int
  message : Bytes
  signature : Bytes
  deriving DecidableEq

/-- `provider_gate`: may this caller use the local software provider for `key`? -/
def providerGate (g : Generation) (actor : AuthenticatedActor) (key : String) : Bool :=
  g.pdp.allows actor .useSoftwareCustody key

namespace Signing

variable {σ : Type} (m : Manager σ) (limits : BrokerLimits)

structure Entropy where
  mlDsaSeed : FixedBytes mlDsaSeedLen
  mlKemSeed : FixedBytes mlKemSeedLen

/-! ### `new_key` -/

inductive NewKeyRoute where
  | mlDsa
  | mlKem (kem : KemAlgorithm)
  | classical (keyType : KeyType)
  deriving DecidableEq

def newKeyRoute (body : NewKeyRequest) : Except Status NewKeyRoute :=
  match m.mlDsaAlgorithmFor body.keyId with
  | some algorithm => do
      ensureMlDsaKeyTypeMatches body.keyType algorithm "new_key"
      return .mlDsa
  | none =>
    match m.mlKemAlgorithmFor body.keyId with
    | some kem => do
        ensureMlKemKeyTypeMatches body.keyType kem "new_key"
        return .mlKem kem
    | none => do
        let keyType ← requestKeyType body.keyType "new_key"
        return .classical keyType

def newKeyAuthorize (g : Generation) (ctx : RequestContext) (body : NewKeyRequest) :
    Except Status (AuthenticatedActor × NewKeyRoute) := do
  let actor ← authorizeInGeneration g ctx .newKey body.keyId
  let _ ← requireUnixUid actor "new_key"
  let route ← newKeyRoute m body
  return (actor, route)

def newKeyServe (gate : Bool) (entropy : Entropy) (body : NewKeyRequest) :
    NewKeyRoute → Proc σ Status (NewKey × Option ProviderDispatch)
  | .mlDsa => do
      let (created, dispatch) ←
        (m.providerGenerate body.keyId gate entropy.mlDsaSeed).mapErr (managerStatus "new_key")
      return (created, some dispatch)
  | .mlKem kem => do
      let (created, dispatch) ← (m.providerGenerateSealing body.keyId kem gate
        entropy.mlKemSeed).mapErr (managerStatus "new_key")
      return (created, some dispatch)
  | .classical keyType => do
      let created ← (m.newKey body.keyId keyType).mapErr (managerStatus "new_key")
      return (created, none)

def newKey (authGen gateGen : Generation) (ctx : RequestContext) (entropy : Entropy)
    (body : NewKeyRequest) : Proc σ Status NewKey := do
  let (actor, route) ← check (newKeyAuthorize m authGen ctx body)
  let (created, _) ← newKeyServe m (providerGate gateGen actor body.keyId) entropy body route
  return created

/-! ### `import` -/

def importKey (g : Generation) (ctx : RequestContext) (body : ImportRequest) :
    Proc σ Status NewKey := do
  let _ ← check (authorizeInGeneration g ctx .importKey body.keyId)
  let material ← check (requestMaterial body.material "import")
  check (ensure (material.len ≤ limits.maxPayloadSize)
    (payloadTooLarge "import" "import payload exceeds configured cap"))
  let keyType ← check (requestKeyType body.keyType "import")
  (m.importKey body.keyId keyType material).mapErr (managerStatus "import")

/-! ### `import_set` -/

/-- Every entry is authorized and validated before any of them is imported. -/
def importSetParse (g : Generation) (ctx : RequestContext) :
    List ImportRequest → Except Status (List (String × KeyType × KeyMaterial))
  | [] => .ok []
  | body :: entries => do
      let _ ← authorizeInGeneration g ctx .importKey body.keyId
      let material ← requestMaterial body.material "import_set"
      let keyType ← requestKeyType body.keyType "import_set"
      let rest ← importSetParse g ctx entries
      return (body.keyId, keyType, material) :: rest

def importSetTotal (parsed : List (String × KeyType × KeyMaterial)) : Nat :=
  parsed.foldl (fun total e => satAddU64 total e.2.2.len) 0

/-- One import after the other; a failure leaves the earlier keys provisioned. -/
def importAll : List (String × KeyType × KeyMaterial) → Proc σ Status (List NewKey)
  | [] => pure []
  | (keyId, keyType, material) :: rest => do
      let imported ← (m.importKey keyId keyType material).mapErr (managerStatus "import_set")
      let keys ← importAll rest
      return imported :: keys

def importSet (g : Generation) (ctx : RequestContext) (entries : List ImportRequest) :
    Proc σ Status (List NewKey) := do
  check (ensure (entries ≠ []) (invalidRequest "import_set" "import set has no entries"))
  let parsed ← check (importSetParse g ctx entries)
  check (ensure (importSetTotal parsed ≤ limits.maxPayloadSize)
    (payloadTooLarge "import_set" "import set payload exceeds configured cap"))
  importAll m parsed

/-! ### `sign` -/

def signAuthorize (g : Generation) (ctx : RequestContext) (body : SignRequest) :
    Except Status (AuthenticatedActor × Option SignatureAlgorithm) := do
  let actor ← authorizeInGeneration g ctx .sign body.keyId
  let _ ← requireUnixUid actor "sign"
  ensureSupportedSigningAlgorithm body.algorithm "sign"
  ensure (body.message.length ≤ limits.maxPayloadSize)
    (payloadTooLarge "sign" "sign message exceeds configured cap")
  return (actor, m.mlDsaAlgorithmFor body.keyId)

def signServe (gate : Bool) (body : SignRequest) :
    Option SignatureAlgorithm → Proc σ Status (Bytes × Option ProviderDispatch)
  | some _ => do
      let (signature, dispatch) ←
        (m.providerSign body.keyId body.message gate).mapErr (managerStatus "sign")
      return (signature, some dispatch)
  | none => do
      let signature ← (m.sign body.keyId body.message).mapErr (managerStatus "sign")
      return (signature, none)

def sign (authGen gateGen : Generation) (ctx : RequestContext) (body : SignRequest) :
    Proc σ Status Bytes := do
  let (actor, route) ← check (signAuthorize m limits authGen ctx body)
  let (signature, _) ← signServe m (providerGate gateGen actor body.keyId) body route
  return signature

/-! ### `verify` -/

def verifyAuthorize (g : Generation) (ctx : RequestContext) (body : VerifyRequest) :
    Except Status (AuthenticatedActor × Option SignatureAlgorithm) := do
  let actor ← authorizeInGeneration g ctx .verify body.keyId
  let _ ← requireUnixUid actor "verify"
  ensureSupportedSigningAlgorithm body.algorithm "verify"
  ensure (body.message.length ≤ limits.maxPayloadSize ∧
      body.signature.length ≤ limits.maxPayloadSize)
    (payloadTooLarge "verify" "verify payload exceeds configured cap")
  return (actor, m.mlDsaAlgorithmFor body.keyId)

def verifyServe (gate : Bool) (body : VerifyRequest) :
    Option SignatureAlgorithm → Proc σ Status (Bool × Option ProviderDispatch)
  | some _ => do
      let (valid, dispatch) ← (m.providerVerify body.keyId body.message body.signature
        gate).mapErr (managerStatus "verify")
      return (valid, some dispatch)
  | none => do
      let valid ←
        (m.verify body.keyId body.message body.signature).mapErr (managerStatus "verify")
      return (valid, none)

def verify (authGen gateGen : Generation) (ctx : RequestContext) (body : VerifyRequest) :
    Proc σ Status Bool := do
  let (actor, route) ← check (verifyAuthorize m limits authGen ctx body)
  let (valid, _) ← verifyServe m (providerGate gateGen actor body.keyId) body route
  return valid

/-! ### `get_public_key` -/

structure GetPublicKeyResponse where
  keyId : String
  key : PublicKey
  deriving DecidableEq

def getPublicKey (g : Generation) (ctx : RequestContext) (keyId : String) :
    Proc σ Status GetPublicKeyResponse := do
  let _ ← check (authorizeInGeneration g ctx .getPublicKey keyId)
  let key ← (m.getPublicKey keyId).mapErr (managerStatus "get_public_key")
  return ⟨keyId, key⟩

/-! ### Classical signers

What the requests on a key of a classical algorithm come down to, when the key is held
by its backend and not by the value store. -/

structure ClassicalSigner (m : Manager σ) (keyId : String) where
  routed : Routed
  resolves : m.resolve keyId = .ok routed
  asymmetric : routed.entry.keyClass = .asymmetric
  notMlDsa : routed.entry.keyType.bind mlDsaSignatureAlgorithm = none
  notMlKem : routed.entry.keyType.bind mlKemProviderAlgorithm = none

section Classical

variable {m limits} {keyId : String} {s : σ} {authGen gateGen g : Generation} {ctx : RequestContext}

variable (k : ClassicalSigner m keyId)
include k

theorem ClassicalSigner.exec_route (s : σ) :
    (m.route keyId).exec s = (.ok k.routed, s) := by
  simp [Manager.route, k.resolves]

theorem ClassicalSigner.mlDsaAlgorithmFor : m.mlDsaAlgorithmFor keyId = none := by
  simp [Manager.mlDsaAlgorithmFor, k.resolves, k.notMlDsa]

theorem ClassicalSigner.mlKemAlgorithmFor : m.mlKemAlgorithmFor keyId = none := by
  simp [Manager.mlKemAlgorithmFor, k.resolves, k.notMlKem]

theorem ClassicalSigner.exec_requireClass (s : σ) {op : String} {allowed : List KeyClass}
    (h : KeyClass.asymmetric ∈ allowed) :
    (check (requireClass op keyId k.routed.entry.keyClass allowed)).exec s = (.ok (), s) := by
  simp [requireClass, k.asymmetric, ensure_pos h]

theorem newKey_ok {entropy : Entropy} {wireType : Int} {created : NewKey} {s' : σ}
    (h : (newKey m authGen gateGen ctx entropy ⟨keyId, wireType⟩).exec s = (.ok created, s')) :
    ∃ keyType, ((m.backend k.routed).newKey keyType).exec s = (.ok created, s') := by
  simp only [newKey, newKeyAuthorize, newKeyRoute, k.mlDsaAlgorithmFor, k.mlKemAlgorithmFor,
    exec_bind_ok, exec_check_ok, bind_eq_ok, pure_eq_ok] at h
  obtain ⟨⟨_, _⟩, _, ⟨⟨_, -, _, -, _, ⟨keyType, -, rfl⟩, heq⟩, rfl⟩, ⟨_, _⟩, _, hserve, hreturn⟩ := h
  cases heq
  cases hreturn
  simp only [newKeyServe, Manager.newKey, exec_bind_ok, exec_mapErr_ok, k.exec_route] at hserve
  obtain ⟨_, _, ⟨_, _, hroute, _, _, hclass, _, _, hmint, hnew⟩, hreturn⟩ := hserve
  cases hreturn
  cases hroute
  rw [exec_check_ok] at hclass hmint
  obtain ⟨-, rfl⟩ := hclass
  obtain ⟨-, rfl⟩ := hmint
  exact ⟨keyType, hnew⟩

theorem importKey_ok {wireType : Int} {request : Option (Option KeyMaterial)} {created : NewKey} {s' : σ}
    (h : (importKey m limits g ctx ⟨keyId, wireType, request⟩).exec s = (.ok created, s')) :
    k.routed.engine ≠ .kv2 ∧ ∃ keyType material,
      ((m.backend k.routed).importKey k.routed.entry.path keyType material).exec s =
        (.ok created, s') := by
  simp only [importKey, exec_ok] at h
  obtain ⟨_, _, ⟨-, rfl⟩, material, _, ⟨-, rfl⟩, _, _, ⟨-, rfl⟩, keyType, _, ⟨-, rfl⟩, himport⟩ := h
  simp only [Manager.importKey, exec_ok, k.exec_route] at himport
  obtain ⟨_, _, hroute, _, _, ⟨-, rfl⟩, _, _, ⟨hengine, rfl⟩, _, _, ⟨-, rfl⟩, hbackend⟩ := himport
  cases hroute
  exact ⟨ensure_eq_ok.mp hengine, keyType, material, hbackend⟩

variable (hengine : k.routed.engine ≠ .kv2)
include hengine

theorem ClassicalSigner.outside_store :
    ¬ (k.routed.entry.keyClass = .asymmetric ∧ k.routed.engine = .kv2) := by
  rintro ⟨-, hkv⟩
  exact hengine hkv

theorem manager_sign_exec (message : Bytes) :
    (m.sign keyId message).exec s =
      (((m.backend k.routed).signWithOptions k.routed.entry.path message
        (signOptionsForKey k.routed.entry.keyType)).mapErr .backend).exec s := by
  rw [Manager.sign, exec_bind_of_ok (k.exec_route s),
    exec_bind_of_ok (k.exec_requireClass s (by decide)), if_neg hengine]

theorem manager_verify_exec (message signature : Bytes) :
    (m.verify keyId message signature).exec s =
      (((m.backend k.routed).verifyWithOptions k.routed.entry.path message signature
        (signOptionsForKey k.routed.entry.keyType)).mapErr .backend).exec s := by
  rw [Manager.verify, exec_bind_of_ok (k.exec_route s),
    exec_bind_of_ok (k.exec_requireClass s (by decide)), if_neg (k.outside_store hengine)]

theorem manager_getPublicKey_exec :
    (m.getPublicKey keyId).exec s =
      (((m.backend k.routed).publicKeyWithMeta k.routed.entry.path).mapErr .backend).exec s := by
  have hsealing : ¬ (k.routed.entry.keyClass = .sealing ∧ Manager.softwareCustodied k.routed = true) := by
    rw [k.asymmetric]
    rintro ⟨hclass, -⟩
    cases hclass
  have hcustody : (if Manager.softwareCustodied k.routed = true then
      k.routed.entry.keyType.bind mlDsaSignatureAlgorithm else none) = none := by
    rw [k.notMlDsa, ite_self]
  rw [Manager.getPublicKey, exec_bind_of_ok (k.exec_route s), if_neg hsealing]
  rw [exec_bind_of_ok (k.exec_requireClass s (by decide)), hcustody]
  rw [if_neg (k.outside_store hengine)]

theorem sign_exec (algorithm : Int) (message : Bytes) :
    (∃ e, (sign m limits authGen gateGen ctx ⟨keyId, algorithm, message⟩).exec s = (.error e, s)) ∨
      (sign m limits authGen gateGen ctx ⟨keyId, algorithm, message⟩).exec s =
        (((m.backend k.routed).signWithOptions k.routed.entry.path message
          (signOptionsForKey k.routed.entry.keyType)).mapErr
            fun e => managerStatus "sign" (.backend e)).exec s := by
  rw [sign]
  cases hauth : signAuthorize m limits authGen ctx ⟨keyId, algorithm, message⟩ with
  | error e => exact .inl ⟨e, exec_bind_of_error rfl⟩
  | ok admitted =>
    obtain ⟨_, route⟩ := admitted
    have hroute : route = none := by
      simp only [signAuthorize, eq_ok] at hauth
      obtain ⟨_, -, _, -, _, -, _, -, heq⟩ := hauth
      cases heq
      exact k.mlDsaAlgorithmFor
    subst hroute
    right
    rw [check_ok_bind]
    simp only [signServe, exec_bind, exec_mapErr, manager_sign_exec k hengine]
    rcases ((m.backend k.routed).signWithOptions k.routed.entry.path message
      (signOptionsForKey k.routed.entry.keyType)).exec s with ⟨_ | signature, s'⟩
    · rfl
    · rfl

theorem verify_exec {algorithm : Int} {message signature : Bytes} {actor : AuthenticatedActor}
    {route : Option SignatureAlgorithm}
    (hauth : verifyAuthorize m limits authGen ctx ⟨keyId, algorithm, message, signature⟩ =
      .ok (actor, route)) :
    (verify m limits authGen gateGen ctx ⟨keyId, algorithm, message, signature⟩).exec s =
      (((m.backend k.routed).verifyWithOptions k.routed.entry.path message signature
        (signOptionsForKey k.routed.entry.keyType)).mapErr
          fun e => managerStatus "verify" (.backend e)).exec s := by
  have hroute : route = none := by
    simp only [verifyAuthorize, eq_ok] at hauth
    obtain ⟨_, -, _, -, _, -, _, -, heq⟩ := hauth
    cases heq
    exact k.mlDsaAlgorithmFor
  subst hroute
  rw [verify, hauth, check_ok_bind]
  simp only [verifyServe, exec_bind, exec_mapErr, manager_verify_exec k hengine]
  rcases ((m.backend k.routed).verifyWithOptions k.routed.entry.path message signature
    (signOptionsForKey k.routed.entry.keyType)).exec s with ⟨_ | valid, s'⟩
  · rfl
  · rfl

theorem getPublicKey_exec {actor : AuthenticatedActor}
    (hauth : authorizeInGeneration g ctx .getPublicKey keyId = .ok actor) :
    ((getPublicKey m g ctx keyId).exec s).1 =
      (((m.backend k.routed).publicKeyWithMeta k.routed.entry.path).exec s).1.mapError
          (fun e => managerStatus "get_public_key" (.backend e)) >>= fun key => .ok ⟨keyId, key⟩ := by
  rw [getPublicKey, hauth, check_ok_bind]
  simp only [exec_bind, exec_mapErr, manager_getPublicKey_exec k hengine]
  rcases ((m.backend k.routed).publicKeyWithMeta k.routed.entry.path).exec s with ⟨_ | key, _⟩
  · rfl
  · rfl

end Classical

/-! ### An Ed25519 signer for the examples -/

def tokenEntry (backend path : String) : KeyEntry where
  keyClass := .asymmetric
  keyType := some .ed25519
  backend := backend
  engine := none
  path := path
  publicPath := none
  writable := true
  missing := .error
  nixCache := none
  generate := none
  sealingPin := none
  labels := ⟨[]⟩
  description := "ed25519 token signer"

def tokenCatalog (name : String) (backend : BackendRef) (path : String) : Catalog where
  backends := .single name backend
  keys := .single "token.signer" (tokenEntry name path)

def tokenPolicy : ResolvedPolicy where
  subjects := .single "svc.api" ⟨.hostProcess, false, .leaf (.processUid (.numeric 9100))⟩
  rules := [⟨["svc.api"], [⟨.newKey, .anyKey, "r1", "op:new_key"⟩,
    ⟨.importKey, .anyKey, "r1", "op:import"⟩, ⟨.getPublicKey, .anyKey, "r1", "op:get_public_key"⟩,
    ⟨.sign, .anyKey, "r1", "op:sign"⟩, ⟨.verify, .anyKey, "r1", "op:verify"⟩,
    ⟨.rotate, .anyKey, "r1", "op:rotate"⟩]⟩]

def tokenGeneration (name : String) (backend : BackendRef) (path : String) : Generation :=
  ⟨1, tokenCatalog name backend path, tokenPolicy, ⟨⟨OrdMap.empty, OrdMap.empty⟩, OrdMap.empty⟩⟩

def tokenLimits : BrokerLimits := ⟨1048576, 1048576, 1⟩

def tokenContext : RequestContext := ⟨⟨none, some 9100, none⟩, some .host⟩

def tokenActor : AuthenticatedActor := ⟨.hostProcess, "svc.api", ⟨none, some 9100, none⟩⟩

end Signing

end Basil
