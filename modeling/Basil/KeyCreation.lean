import Basil.CloudKms
import Basil.Keystore
import Basil.Loader
import Basil.Signing
import Basil.Transit

/-!
# Creating and importing classical signing keys

`import` stores the material at the backend path of its key; `new_key` lets the backend choose
where it goes.
-/

namespace Basil.Creation

open Keystore Proc List

/-- A backend that keeps material under the ids it is given: what it has imported can be
read back and signs validly under the public half it returned. The ids that it chooses
itself contain a hyphen. -/
structure NamedStore {σ : Type} (b : Backend σ)
    (valid : Bytes → SignOptions → Bytes → Bytes → Prop) where
  Material : Type
  material : σ → String → Option Material
  publicHalf : Material → Option Bytes
  assigned : ∀ {keyType s key s'}, (b.newKey keyType).exec s = (.ok key, s') → '-' ∈ key.keyId.toList
  imported : ∀ {path keyType request s key s'},
    (b.importKey path keyType request).exec s = (.ok key, s') →
      key.keyId = path ∧ ∃ k, material s' path = some k ∧ publicHalf k = some key.publicKey
  readable : ∀ {path s k pub}, material s path = some k → publicHalf k = some pub →
    ∃ keyType version, ((b.publicKeyWithMeta path).exec s).1 = .ok ⟨pub, keyType, version⟩
  signs : ∀ {path message options s k pub signature}, material s path = some k →
    publicHalf k = some pub → ((b.signWithOptions path message options).exec s).1 = .ok signature →
      valid pub options message signature

inductive Request where
  | newKey (authGen gateGen : Generation) (entropy : Signing.Entropy) (keyType : Int)
  | importKey (g : Generation) (keyType : Int) (material : Option (Option KeyMaterial))

def Request.isImport : Request → Bool
  | .newKey .. => false
  | .importKey .. => true

variable {σ : Type} (m : Manager σ) (limits : BrokerLimits)

def Request.serve (ctx : RequestContext) (keyId : String) : Request → Proc σ Status NewKey
  | .newKey authGen gateGen entropy keyType =>
      Signing.newKey m authGen gateGen ctx entropy ⟨keyId, keyType⟩
  | .importKey g keyType material => Signing.importKey m limits g ctx ⟨keyId, keyType, material⟩

/-- What the protocol definition says of a created key: it is named by its catalog name,
and while the material at its backend path stays what it is, the name reads its public
half and signs validly under it. -/
def StoredUnderName {b : Backend σ} {valid : Bytes → SignOptions → Bytes → Bytes → Prop}
    (store : NamedStore b valid) {keyId : String} (k : Signing.ClassicalSigner m keyId) (created : NewKey)
    (s : σ) : Prop :=
  created.keyId = keyId ∧
    ∀ s', store.material s' k.routed.entry.path = store.material s k.routed.entry.path →
      (∀ g ctx actor, authorizeInGeneration g ctx .getPublicKey keyId = .ok actor →
        ∃ key, ((Signing.getPublicKey m g ctx keyId).exec s').1 = .ok ⟨keyId, key⟩ ∧
          key.publicKey = created.publicKey) ∧
      ∀ authGen gateGen ctx algorithm message signature,
        ((Signing.sign m limits authGen gateGen ctx ⟨keyId, algorithm, message⟩).exec s').1 =
            .ok signature →
          valid created.publicKey (signOptionsForKey k.routed.entry.keyType) message signature

section Main

variable {m limits} {b : Backend σ} {valid : Bytes → SignOptions → Bytes → Bytes → Prop} {keyId : String}
variable {s s' : σ} {ctx : RequestContext} {created : NewKey}

theorem imported_usable (store : NamedStore b valid) (k : Signing.ClassicalSigner m keyId)
    (hbackend : m.backend k.routed = b) {g : Generation} {wireType : Int}
    {material : Option (Option KeyMaterial)}
    (h : (Signing.importKey m limits g ctx ⟨keyId, wireType, material⟩).exec s = (.ok created, s')) :
    created.keyId = k.routed.entry.path ∧
      ∀ t, store.material t k.routed.entry.path = store.material s' k.routed.entry.path →
        (∀ g ctx actor, authorizeInGeneration g ctx .getPublicKey keyId = .ok actor →
          ∃ key, ((Signing.getPublicKey m g ctx keyId).exec t).1 = .ok ⟨keyId, key⟩ ∧
            key.publicKey = created.publicKey) ∧
        ∀ authGen gateGen ctx algorithm message signature,
          ((Signing.sign m limits authGen gateGen ctx ⟨keyId, algorithm, message⟩).exec t).1 =
              .ok signature →
            valid created.publicKey (signOptionsForKey k.routed.entry.keyType) message signature := by
  obtain ⟨hengine, keyType, _, hexec⟩ := Signing.importKey_ok k h
  rw [hbackend] at hexec
  obtain ⟨hid, held, hmaterial, hpublic⟩ := store.imported hexec
  refine ⟨hid, ?_⟩
  intro t hsame
  have hheld : store.material t k.routed.entry.path = some held := by rw [hsame, hmaterial]
  constructor
  · intro g ctx actor hauth
    obtain ⟨readType, version, hread⟩ := store.readable hheld hpublic
    refine ⟨⟨created.publicKey, readType, version⟩, ?_, rfl⟩
    rw [Signing.getPublicKey_exec k hengine hauth, hbackend, hread]
    rfl
  · intro authGen gateGen ctx algorithm message signature hsigned
    have hcases : (∃ e, (Signing.sign m limits authGen gateGen ctx
        ⟨keyId, algorithm, message⟩).exec t = (.error e, t)) ∨ _ :=
      Signing.sign_exec k hengine algorithm message
    rcases hcases with ⟨e, hrefused⟩ | hserved
    · rw [hrefused] at hsigned
      cases hsigned
    · rw [hserved, exec_mapErr, mapError_eq_ok, hbackend] at hsigned
      exact store.signs hheld hpublic hsigned

theorem created_under_name_iff (haccepts : Loader.Accepts m.catalog) (store : NamedStore b valid)
    (k : Signing.ClassicalSigner m keyId) (hbackend : m.backend k.routed = b) (request : Request)
    (h : (request.serve m limits ctx keyId).exec s = (.ok created, s')) :
    StoredUnderName m limits store k created s' ↔
      request.isImport = true ∧ k.routed.entry.path = keyId := by
  cases request with
  | newKey =>
    have hname : '-' ∉ keyId.toList :=
      Loader.keyNameOk_no_hyphen (haccepts.keyNameOk (BackendManager.resolve_ok k.resolves).1)
    obtain ⟨_, hexec⟩ := Signing.newKey_ok k h
    rw [hbackend] at hexec
    have hid := store.assigned hexec
    constructor
    · rintro ⟨heq, -⟩
      rw [heq] at hid
      exact absurd hid hname
    · rintro ⟨himport, -⟩
      cases himport
  | importKey =>
    obtain ⟨hid, husable⟩ := imported_usable store k hbackend h
    constructor
    · rintro ⟨heq, -⟩
      exact ⟨rfl, by rw [← hid, heq]⟩
    · rintro ⟨-, hpath⟩
      exact ⟨by rw [hid, hpath], husable⟩

end Main

/-! ### The repository's backends -/

section Vault

variable {κ : Type} {C : TransitCrypto κ} {prims : Primitives}
variable {valid : Bytes → SignOptions → Bytes → Bytes → Prop}

def TransitValid (C : TransitCrypto κ) (prims : Primitives)
    (valid : Bytes → SignOptions → Bytes → Bytes → Prop) : Prop :=
  ∀ k pub options message r signature,
    Transit.publicHalf C prims k = .ok pub →
    C.ecdsaDerToRaw (C.sign k (insertSignOptions options) message r) options = .ok signature →
      valid pub options message signature

/-- The public half of a signing key whose version count fits the adapter's `u32`. -/
def transitPublicHalf (C : TransitCrypto κ) (prims : Primitives) (key : TransitKey κ) : Option Bytes :=
  if key.latest ≤ u32Max ∧ key.keyType.signs = true then
    (Transit.publicHalf C prims key.newest).toOption
  else none

theorem transitPublicHalf_eq_some {key : TransitKey κ} {pub : Bytes}
    (h : transitPublicHalf C prims key = some pub) :
    key.latest ≤ u32Max ∧ key.keyType.signs = true ∧
      Transit.publicHalf C prims key.newest = .ok pub := by
  unfold transitPublicHalf at h
  split at h
  · rename_i hkey
    refine ⟨hkey.1, hkey.2, ?_⟩
    cases hfield : Transit.publicHalf C prims key.newest with
    | error e => simp [hfield, Except.toOption] at h
    | ok bytes =>
      simp only [hfield, Except.toOption, Option.some.injEq] at h
      rw [h]
  · cases h

theorem transitTypeToWire_of_signs {ty : TransitType} (h : ty.signs = true) :
    ∃ keyType, Transit.transitTypeToWire ty = .ok keyType := by
  cases ty with
  | aes256Gcm96 | chacha20Poly1305 => cases h
  | _ => exact ⟨_, rfl⟩

theorem transit_imported {path : String} {keyType : KeyType} {request : KeyMaterial} {v v' : Vault κ}
    {key : NewKey} (h : ((Transit.backend C prims).importKey path keyType request).exec v = (.ok key, v')) :
    key.keyId = path ∧
      ∃ k, v'.keys path = some k ∧ transitPublicHalf C prims k = some key.publicKey := by
  simp only [Transit.adapter, Transit.importKey, exec_bind_ok, exec_check_ok, orErr_eq_ok] at h
  obtain ⟨ty, _, ⟨hty, rfl⟩, _, _, ⟨-, rfl⟩, _, v₁, himport, _, _, hread, hreturn⟩ := h
  cases hreturn
  refine ⟨rfl, ?_⟩
  have hput : ∃ k, v₁ = v.put path ⟨ty, k, [], 1⟩ := by
    simp only [Vault.engine, Vault.importKey, exec_ofFun] at himport
    split at himport
    · cases himport
      exact ⟨_, rfl⟩
    · cases himport
  obtain ⟨k, rfl⟩ := hput
  simp only [Transit.readPublicKey, Vault.engine, Vault.readKey, exec_bind_ok, exec_ofFun,
    Vault.put_keys_self, orErr, exec_check_ok] at hread
  obtain ⟨_, _, hheld, hbytes, rfl⟩ := hread
  cases hheld
  have hlatest : (⟨ty, k, [], 1⟩ : TransitKey κ).latest ≤ u32Max := by
    show 0 + 1 ≤ u32Max
    decide
  rw [Transit.publicKeyBytes_newest hlatest] at hbytes
  refine ⟨_, Vault.put_keys_self _ _ _, ?_⟩
  have hsigns : ty.signs = true := by cases keyType <;> cases hty <;> rfl
  rw [transitPublicHalf, if_pos ⟨hlatest, hsigns⟩, hbytes]
  rfl

def transitStore (hb64 : prims.B64Sound) (hvalid : TransitValid C prims valid) :
    NamedStore (Transit.backend C prims) valid where
  Material := TransitKey κ
  material := Vault.keys
  publicHalf := transitPublicHalf C prims
  assigned := by
    intro keyType v key v' h
    simp only [Transit.adapter, Transit.newKey, exec_bind_ok] at h
    obtain ⟨_, _, -, uuid, _, -, _, _, -, _, _, -, hreturn⟩ := h
    cases hreturn
    simp
  imported := transit_imported
  readable := by
    intro path v k pub hheld hpublic
    obtain ⟨hlatest, hsigns, hfield⟩ := transitPublicHalf_eq_some hpublic
    obtain ⟨keyType, hwire⟩ := transitTypeToWire_of_signs hsigns
    refine ⟨keyType, Transit.latestVersion k, ?_⟩
    show ((Transit.readPublicKeyWithMeta (Vault.engine C prims) C prims path).exec v).1 = _
    have hread : ((Vault.engine C prims).readKey path).exec v = (.ok k, v) := by
      simp [Vault.engine, Vault.readKey, hheld, orErr]
    rw [Transit.readPublicKeyWithMeta, exec_bind_of_ok hread, Transit.publicKeyBytes_newest hlatest, hfield,
      check_ok_bind, hwire, check_ok_bind]
    rfl
  signs := by
    intro path message options v k pub signature hheld hpublic hsigned
    obtain ⟨key, draw, hkey, hraw⟩ :=
      Transit.signWithOptions_ok (Vault.engine_laws C prims) hb64 (Prod.ext hsigned rfl)
    rw [hheld] at hkey
    cases hkey
    exact hvalid _ _ _ _ _ _ (transitPublicHalf_eq_some hpublic).2.2 hraw

end Vault

section Others

variable {valid : Bytes → SignOptions → Bytes → Bytes → Prop}

theorem hyphenated_hyphen (simple : String) : '-' ∈ (hyphenated simple).toList := by
  simp [hyphenated]

theorem assignedId_hyphen (uuid : String) : '-' ∈ (assignedId uuid).toList := by
  simp [assignedId]

def keystoreStore (C : KeystoreCrypto)
    (hvalid : ∀ seed message, valid (C.ed25519Public seed).bytes .default message
      (C.ed25519Sign seed message).bytes) : NamedStore (backend C) valid where
  Material := Bytes
  material := entries
  publicHalf := fun seed => (publicEd25519 C seed).toOption
  assigned := by
    intro keyType s key s' h
    change (newKey C keyType).exec s = (.ok key, s') at h
    simp only [newKey, exec_bind_ok] at h
    obtain ⟨d, s₁, -, hcreate⟩ := h
    simp only [createNamedKey, exec_bind_ok] at hcreate
    obtain ⟨_, _, -, _, _, -, _, _, -, _, _, -, hreturn⟩ := hcreate
    cases hreturn
    exact hyphenated_hyphen _
  imported := by
    intro path keyType request s key s' h
    change (importKey C path keyType request).exec s = (.ok key, s') at h
    cases request with
    | pkcs8Der der =>
      simp only [importKey, exec_bind_ok] at h
      obtain ⟨_, _, -, hfail⟩ := h
      cases hfail
    | ed25519Seed seed =>
      simp only [importKey, crypto, exec_bind_ok, exec_check_ok,
        mapError_eq_ok] at h
      obtain ⟨_, _, -, pub, _, ⟨hpublic, rfl⟩, _, _, hput, hreturn⟩ := h
      cases hput
      cases hreturn
      refine ⟨rfl, seed, by simp, ?_⟩
      show (publicEd25519 C seed).toOption = some pub
      rw [hpublic]
      rfl
  readable := by
    intro path s seed pub hheld hpublic
    refine ⟨.ed25519, keystoreVersion, ?_⟩
    cases hderive : publicEd25519 C seed with
    | error e => simp [hderive, Except.toOption] at hpublic
    | ok bytes =>
      simp only [hderive, Except.toOption, Option.some.injEq] at hpublic
      subst hpublic
      have hsecret : (getSecret path).exec s = (.ok seed, s) := by
        simp [getSecret, hheld, orErr]
      have hread : (publicKey C path).exec s = (.ok bytes, s) := by
        rw [publicKey, exec_bind_of_ok hsecret, crypto, hderive]
        rfl
      rw [backend, exec_bind_of_ok hread]
      rfl
  signs := by
    intro path message options s seed pub signature hheld hpublic hsigned
    cases hderive : publicEd25519 C seed with
    | error e => simp [hderive, Except.toOption] at hpublic
    | ok bytes =>
      simp only [hderive, Except.toOption, Option.some.injEq] at hpublic
      subst hpublic
      cases options with
      | default =>
        simp only [backend, getSecret, crypto, signEd25519,
          exec_bind, exec_ofFun, hheld, orErr, exec_check, mapError_eq_ok,
          bind_eq_ok, pure_eq_ok] at hsigned
        simp only [publicEd25519, bind_eq_ok, pure_eq_ok] at hderive
        obtain ⟨fixed, hfixed, rfl⟩ := hsigned
        obtain ⟨fixed', hfixed', rfl⟩ := hderive
        rw [hfixed] at hfixed'
        cases hfixed'
        exact hvalid fixed message
      | _ => cases hsigned

def awsStore {σ : Type} (prims : KmsPrimitives) (client : AwsClient σ) :
    NamedStore (AwsKms.backend prims client) valid where
  Material := Empty
  material := fun _ _ => none
  publicHalf := fun k => k.elim
  assigned := by
    intro keyType s key s' h
    change (AwsKms.newKey prims client keyType).exec s = (.ok key, s') at h
    simp only [AwsKms.newKey, exec_bind_ok] at h
    obtain ⟨uuid, _, -, hcreate⟩ := h
    simp only [AwsKms.createNamedKey, exec_bind_ok] at hcreate
    obtain ⟨_, _, -, _, _, -, _, _, -, _, _, -, _, _, -, hreturn⟩ := hcreate
    cases hreturn
    exact assignedId_hyphen uuid
  imported := by
    intro path keyType request s key s' h
    cases h
  readable := by
    intro path s k
    exact k.elim
  signs := by
    intro path message options s k
    exact k.elim

def gcpStore {σ : Type} (prims : KmsPrimitives) (b64Decode : String → Option Bytes) (keyRing : String)
    (client : GcpClient σ) : NamedStore (GcpKms.backend prims b64Decode keyRing client) valid where
  Material := Empty
  material := fun _ _ => none
  publicHalf := fun k => k.elim
  assigned := by
    intro keyType s key s' h
    change (GcpKms.newKey prims b64Decode keyRing client keyType).exec s = (.ok key, s') at h
    simp only [GcpKms.newKey, GcpKms.createNamedKey, exec_bind_ok] at h
    obtain ⟨uuid, _, -, _, _, -, _, _, -, _, _, -, hreturn⟩ := h
    cases hreturn
    rw [String.toList_append, String.toList_append, List.mem_append, List.mem_append]
    exact .inl (.inl (assignedId_hyphen uuid))
  imported := by
    intro path keyType request s key s' h
    cases h
  readable := by
    intro path s k
    exact k.elim
  signs := by
    intro path message options s k
    exact k.elim

end Others

/-! ### Sets of imports -/

section ImportSet

open Signing

abbrev ImportEntry := String × KeyType × KeyMaterial

/-- The form of the material is decided before the store is asked. -/
structure FormChecked (b : Backend σ) where
  form : KeyType → KeyMaterial → Except BackendError Unit
  refuses : ∀ {path keyType material e s}, form keyType material = .error e →
    ((b.importKey path keyType material).exec s).1 = .error e

/-- What `import` checks of an entry without an answer of the backend. -/
structure Passes (m : Manager σ) (forms : ∀ name, FormChecked (m.backendOf name)) (entry : ImportEntry)
    (routed : Routed) : Prop where
  resolves : m.resolve entry.1 = .ok routed
  keyClass : routed.entry.keyClass ∈ [.asymmetric, .symmetric]
  engine : routed.engine ≠ .kv2
  mints : routed.entry.keyClass = .asymmetric → routed.backendDeclaresProvides = false ∨
    KeyAlgorithm.fromWireKeyType entry.2.1 ∈ routed.backendRef.mintKeyTypes
  form : (forms routed.entry.backend).form entry.2.1 entry.2.2 = .ok ()

def Fails {ε α : Type} (p : Proc σ ε α) (s : σ) : Prop := ∃ e, (p.exec s).1 = .error e

theorem fails_check {ε α β : Type} {x : Except ε α} {f : α → Proc σ ε β} {s : σ}
    (h : ∀ a, x = .ok a → Fails (f a) s) : Fails (check x >>= f) s := by
  cases x with
  | error e => exact ⟨e, rfl⟩
  | ok a => exact h a rfl

variable {m limits} {forms : ∀ name, FormChecked (m.backendOf name)} {g : Generation}
  {ctx : RequestContext} {entries : List ImportRequest} {parsed : List ImportEntry} {entry : ImportEntry}

def EntryRefused (forms : ∀ name, FormChecked (m.backendOf name)) (entry : ImportEntry) : Prop :=
  ∀ routed, ¬ Passes m forms entry routed

def SetRefused (forms : ∀ name, FormChecked (m.backendOf name)) (limits : BrokerLimits)
    (g : Generation) (ctx : RequestContext) (entries : List ImportRequest) : Prop :=
  match importSetParse g ctx entries with
  | .error _ => True
  | .ok parsed =>
      limits.maxPayloadSize < importSetTotal parsed ∨ ∃ entry ∈ parsed, EntryRefused forms entry

/-- The entries that the second loop has imported when it returns. -/
def imported (m : Manager σ) : List ImportEntry → σ → List ImportEntry
  | [], _ => []
  | entry :: rest, s =>
      match (m.importKey entry.1 entry.2.1 entry.2.2).exec s with
      | (.ok _, s') => entry :: imported m rest s'
      | (.error _, _) => []

def importedSet (m : Manager σ) (limits : BrokerLimits) (g : Generation) (ctx : RequestContext)
    (entries : List ImportRequest) (s : σ) : List ImportEntry :=
  match importSetParse g ctx entries with
  | .error _ => []
  | .ok parsed => if importSetTotal parsed ≤ limits.maxPayloadSize then imported m parsed s else []

theorem requireMint_ok {routed : Routed} {keyType : KeyType} {u : Unit} :
    routed.requireMintIfAsymmetric "import" keyType = .ok u ↔
      (routed.entry.keyClass = .asymmetric → routed.backendDeclaresProvides = false ∨
        KeyAlgorithm.fromWireKeyType keyType ∈ routed.backendRef.mintKeyTypes) := by
  unfold Routed.requireMintIfAsymmetric
  split
  · next hclass => simp [Routed.requireMintKeyType, hclass]
  · next hclass => simp [hclass]

theorem Passes.importKey {routed : Routed} (h : Passes m forms entry routed) (s : σ) :
    (m.importKey entry.1 entry.2.1 entry.2.2).exec s =
      (((m.backend routed).importKey routed.entry.path entry.2.1 entry.2.2).mapErr .backend).exec s := by
  refine exec_check_step (a := routed) (by rw [h.resolves]; rfl) ?_
  refine exec_check_step (ensure_pos h.keyClass _) (exec_check_step (ensure_pos h.engine _) ?_)
  exact exec_check_step (a := ()) (requireMint_ok.mpr h.mints) rfl

theorem EntryRefused.importKey (h : EntryRefused forms entry) (s : σ) :
    Fails (m.importKey entry.1 entry.2.1 entry.2.2) s := by
  refine fails_check fun routed hresolve => fails_check fun _ hclass =>
    fails_check fun _ hengine => fails_check fun _ hmints => ?_
  cases hform : (forms routed.entry.backend).form entry.2.1 entry.2.2 with
  | error e => exact ⟨.backend e, congrArg (Except.mapError _) ((forms _).refuses hform)⟩
  | ok _ => exact absurd ⟨mapError_eq_ok.mp hresolve, ensure_eq_ok.mp hclass, ensure_eq_ok.mp hengine,
      requireMint_ok.mp hmints, hform⟩ (h routed)

theorem imported_of_ok {keys : List NewKey} {s : σ} (h : ((importAll m parsed).exec s).1 = .ok keys) :
    imported m parsed s = parsed := by
  induction parsed generalizing s keys with
  | nil => rfl
  | cons entry rest ih =>
    obtain ⟨_, hrun⟩ := exec_of_fst_ok h
    simp only [importAll, exec_ok] at hrun
    obtain ⟨_, s₁, hentry, _, _, hrest, -⟩ := hrun
    rw [imported, hentry]
    exact congrArg (entry :: ·) (ih (congrArg Prod.fst hrest))

theorem not_refused_of_imported {s : σ} (h : entry ∈ imported m parsed s) : ¬ EntryRefused forms entry := by
  induction parsed generalizing s with
  | nil => cases h
  | cons first rest ih =>
    rw [imported] at h
    split at h
    · next hrun =>
      rcases mem_cons.mp h with rfl | hmem
      · intro hrefused
        obtain ⟨_, he⟩ := hrefused.importKey s
        rw [hrun] at he
        cases he
      · exact ih hmem
    · cases h

/-- The backend's own answer to an entry. -/
def BackendRefuses (m : Manager σ) (entry : ImportEntry) (s : σ) : Prop :=
  ∀ routed, m.resolve entry.1 = .ok routed →
    Fails ((m.backend routed).importKey routed.entry.path entry.2.1 entry.2.2) s

theorem imported_nil_iff {rest : List ImportEntry} {s : σ} : imported m (entry :: rest) s = [] ↔
    EntryRefused forms entry ∨ BackendRefuses m entry s := by
  rw [imported]
  by_cases hrefused : EntryRefused forms entry
  · obtain ⟨_, he⟩ := hrefused.importKey s
    rcases hrun : (m.importKey entry.1 entry.2.1 entry.2.2).exec s with ⟨_, _⟩
    rw [hrun] at he
    cases he
    simp [hrefused]
  · obtain ⟨routed, hpasses⟩ := not_forall_not.mp hrefused
    rw [hpasses.importKey, exec_mapErr]
    simp only [hrefused, false_or, BackendRefuses, Fails, hpasses.resolves, Except.ok.injEq, forall_eq']
    rcases ((m.backend routed).importKey routed.entry.path entry.2.1 entry.2.2).exec s with ⟨_ | _, _⟩ <;>
      simp [Except.mapError]

/-- The first entry is not imported, for a check or by the backend's answer in `s`. -/
def StopsFirst (forms : ∀ name, FormChecked (m.backendOf name)) (limits : BrokerLimits) (g : Generation)
    (ctx : RequestContext) (entries : List ImportRequest) (s : σ) : Prop :=
  ∀ first rest, importSetParse g ctx entries = .ok (first :: rest) →
    importSetTotal (first :: rest) ≤ limits.maxPayloadSize →
      EntryRefused forms first ∨ BackendRefuses m first s

theorem importSet_fails (h : SetRefused forms limits g ctx entries) (s : σ) :
    Fails (importSet m limits g ctx entries) s := by
  unfold Fails
  cases hresult : ((importSet m limits g ctx entries).exec s).1 with
  | error e => exact ⟨e, rfl⟩
  | ok keys =>
    obtain ⟨_, hrun⟩ := exec_of_fst_ok hresult
    simp only [importSet, exec_ok, ensure_eq_ok] at hrun
    obtain ⟨_, _, -, parsed, _, ⟨hparse, rfl⟩, _, _, ⟨hsize, rfl⟩, hall⟩ := hrun
    simp only [SetRefused, hparse] at h
    obtain ⟨entry, hmem, hrefused⟩ := h.resolve_left (Nat.not_lt.mpr hsize)
    rw [← imported_of_ok (congrArg Prod.fst hall)] at hmem
    exact absurd hrefused (not_refused_of_imported hmem)

theorem importedSet_nil_iff {s : σ} :
    importedSet m limits g ctx entries s = [] ↔ StopsFirst forms limits g ctx entries s := by
  unfold importedSet StopsFirst
  cases importSetParse g ctx entries with
  | error e => simp
  | ok parsed =>
    dsimp only
    split
    · next hsize =>
      cases parsed with
      | nil => simp [imported]
      | cons first rest =>
        have hnil : imported m (first :: rest) s = [] ↔
            EntryRefused forms first ∨ BackendRefuses m first s := imported_nil_iff
        rw [hnil]
        constructor
        · rintro hstops _ _ ⟨⟩ -
          exact hstops
        · intro hstops
          exact hstops first rest rfl hsize
    · next hsize =>
      refine iff_of_true rfl ?_
      rintro _ _ ⟨⟩ hfits
      exact absurd hfits hsize

end ImportSet

def keystoreForm (C : KeystoreCrypto) : FormChecked (backend C) where
  form keyType material := do
    ensure (keyType = .ed25519) (.unsupportedKeyType keyType.token)
    match material with
    | .ed25519Seed seed => do
        let _ ← (publicEd25519 C seed).mapError cryptoError
    | .pkcs8Der _ => .error (.unsupported "import material")
  refuses := by
    intro path keyType material e s h
    rw [bind_eq_error] at h
    obtain htype | ⟨_, htype, h⟩ := h
    · exact congrArg Prod.fst (exec_bind_of_error (congrArg (·, s) htype))
    · refine congrArg Prod.fst (exec_check_step htype (r := (_, s)) ?_)
      cases material with
      | pkcs8Der =>
        cases h
        rfl
      | ed25519Seed seed =>
        rw [bind_eq_error] at h
        obtain hseed | ⟨_, -, ⟨⟩⟩ := h
        exact exec_bind_of_error (congrArg (·, s) hseed)

/-! ### A signer in a key store -/

open Signing (tokenEntry tokenCatalog tokenGeneration tokenLimits tokenContext)

def localBackend : BackendRef := ⟨.keystore, "/var/lib/basil/keystore.db", [], [], [.ed25519], []⟩

def localGeneration (path : String) : Generation := tokenGeneration "local" localBackend path

def tokenCrypto : KeystoreCrypto where
  uuidSimple := fun _ => "6f1c0d1e2b3a4c5d8e9f0a1b2c3d4e5f"
  keyMaterial := fun d => .fill 32 (UInt8.ofNat d)
  nonce := fun d => .fill 12 (UInt8.ofNat d)
  ed25519Public := fun seed => seed
  ed25519Sign := fun seed _ => ⟨seed.bytes ++ seed.bytes, seed.length_twice⟩
  ed25519Verify := fun publicKey _ signature => decide (signature.bytes = publicKey.bytes ++ publicKey.bytes)
  aeadEncrypt := fun _ _ _ _ plaintext => some plaintext
  aeadDecrypt := fun _ _ _ _ ciphertext => some ciphertext

def TwiceValid (publicKey : Bytes) (_ : SignOptions) (_ signature : Bytes) : Prop :=
  signature = publicKey ++ publicKey

def tokenStore : NamedStore (backend tokenCrypto) TwiceValid :=
  keystoreStore tokenCrypto fun _ _ => rfl

def localManager (path : String) : Manager Keystore where
  catalog := tokenCatalog "local" localBackend path
  instances := ["local"]
  backendOf := fun _ => backend tokenCrypto
  prims := .refusing

def localSigner (path : String) : Signing.ClassicalSigner (localManager path) "token.signer" where
  routed := ⟨tokenEntry "local" path, localBackend, .transit⟩
  resolves := rfl
  asymmetric := rfl
  notMlDsa := rfl
  notMlKem := rfl

def emptyKeystore : Keystore := ⟨fun _ => none, 0⟩

def tokenImport (path : String) : Request :=
  .importKey (localGeneration path) 1 (some (some (.ed25519Seed (List.replicate 32 7))))

def tokenNewKey (path : String) : Request :=
  .newKey (localGeneration path) (localGeneration path) ⟨.fill _ 0, .fill _ 0⟩ 1

theorem created_under_name_imported :
    StoredUnderName (localManager "token.signer") tokenLimits
      tokenStore (localSigner "token.signer")
      ⟨"token.signer", replicate 32 7⟩
      (((tokenImport "token.signer").serve (localManager "token.signer") tokenLimits tokenContext
        "token.signer").exec emptyKeystore).2 :=
  (created_under_name_iff ⟨[], rfl⟩ tokenStore (localSigner "token.signer")
    rfl (tokenImport "token.signer") (Prod.ext (by decide) rfl)).mpr ⟨rfl, rfl⟩

theorem newKey_stored_elsewhere :
    let m := localManager "signers/token"
    let g := localGeneration "signers/token"
    let out := ((tokenNewKey "signers/token").serve m tokenLimits tokenContext "token.signer").exec
      emptyKeystore
    out.1 = .ok ⟨"6f1c0d1e-2b3a-4c5d-8e9f-0a1b2c3d4e5f", replicate 32 1⟩ ∧
      ((Signing.getPublicKey m g tokenContext "token.signer").exec out.2).1 =
        .error (internalStatus "get_public_key" "key not found: signers/token") ∧
      ((Signing.sign m tokenLimits g g tokenContext ⟨"token.signer", 0, [42]⟩).exec out.2).1 =
        .error (internalStatus "sign" "key not found: signers/token") ∧
      (((tokenImport "signers/token").serve m tokenLimits tokenContext "token.signer").exec
        emptyKeystore).1 = .ok ⟨"signers/token", replicate 32 7⟩ := by
  decide

def tokenSet (wireTypes : List Int) : List ImportRequest :=
  wireTypes.map fun wireType =>
    ⟨"token.signer", wireType, some (some (.ed25519Seed (List.replicate 32 7)))⟩

def tokenForms (name : String) : FormChecked ((localManager "token.signer").backendOf name) :=
  keystoreForm tokenCrypto

def TokensRefused (wireTypes : List Int) : Prop :=
  SetRefused tokenForms tokenLimits (localGeneration "token.signer") tokenContext (tokenSet wireTypes)

def importTokens (wireTypes : List Int) : Proc Keystore Status (List NewKey) :=
  Signing.importSet (localManager "token.signer") tokenLimits (localGeneration "token.signer")
    tokenContext (tokenSet wireTypes)

theorem rsa_refused (material : KeyMaterial) :
    EntryRefused tokenForms ("token.signer", .rsa2048, material) := by
  rintro _ ⟨hresolves, -, -, hmints, -⟩
  cases hresolves
  exact (hmints rfl).elim nofun (by simp [localBackend, KeyAlgorithm.fromWireKeyType])

end Basil.Creation
