import Basil.Loader
import Basil.Secrets
import Basil.Signing

/-!
# Which catalog keys a write request changes

The five requests that write are served over any store that keeps locations apart: a backend call
at a path changes nothing at another location. A request is confined when every catalog key it
changes, in whatever store and whether it succeeds or not, is one the policy lets the caller
write.
-/

namespace Basil.Confinement

open Proc Signing ProviderMetadata

inductive WriteRequest where
  | setSecret (secretId : String) (value : Bytes)
  | rotateSecret (secretId : String)
  | newKey (body : NewKeyRequest)
  | importKey (body : ImportRequest)
  | importSet (entries : List ImportRequest)

/-- Where the material of a key is: its path, and its public half when that is kept apart. -/
def locations (entry : KeyEntry) : List Location :=
  ⟨entry.backend, entry.path⟩ :: (entry.publicPath.map (Location.mk entry.backend)).toList

def InCatalog (bm : BackendManager) (loc : Location) : Prop :=
  ∃ key entry, bm.catalog.keys.get? key = some entry ∧ loc ∈ locations entry

section Frame

variable {σ M : Type} (bm : BackendManager) (material : Location → σ → M)

/-- Nothing of the catalog has changed outside `W`. -/
def Within (W : Location → Prop) (s t : σ) : Prop :=
  ∀ loc, InCatalog bm loc → ¬ W loc → material loc t = material loc s

instance (W : Location → Prop) : Std.Refl (Within bm material W) := ⟨fun _ _ _ _ => rfl⟩

instance (W : Location → Prop) : IsTrans σ (Within bm material W) :=
  ⟨fun _ _ _ h h' loc hin hout => (h' loc hin hout).trans (h loc hin hout)⟩

end Frame

/-- A store behind the backends of `bm`, with everything else that a request takes from
other programs. A server-assigned id is none of the catalog's locations. -/
structure World (bm : BackendManager) where
  σ : Type
  M : Type
  material : Location → σ → M
  backendOf : String → Backend σ
  prims : Primitives
  recipes : Recipes
  entropy : Entropy
  newKey : ∀ name keyType,
    Keeps (Within bm material fun _ => False) ((backendOf name).newKey keyType)
  createNamedKey : ∀ name path keyType,
    Keeps (Within bm material (· = ⟨name, path⟩)) ((backendOf name).createNamedKey path keyType)
  createNamedPqcKey : ∀ name path alg,
    Keeps (Within bm material (· = ⟨name, path⟩)) ((backendOf name).createNamedPqcKey path alg)
  importKey : ∀ name path keyType key,
    Keeps (Within bm material (· = ⟨name, path⟩)) ((backendOf name).importKey path keyType key)
  rotate : ∀ name path,
    Keeps (Within bm material (· = ⟨name, path⟩)) ((backendOf name).rotate path)
  configureVersions : ∀ name path decryption available,
    Keeps (Within bm material (· = ⟨name, path⟩))
      ((backendOf name).configureVersions path decryption available)
  kvPut : ∀ name path value,
    Keeps (Within bm material (· = ⟨name, path⟩)) ((backendOf name).kvPut path value)
  kvGet : ∀ name path version,
    Keeps (Within bm material fun _ => False) ((backendOf name).kvGet path version)
  encrypt : ∀ name path alg plaintext aad,
    Keeps (Within bm material fun _ => False) ((backendOf name).encrypt path alg plaintext aad)

variable {bm : BackendManager}

abbrev World.Spares (w : World bm) (W : Location → Prop) {ε α : Type} (p : Proc w.σ ε α) : Prop :=
  Keeps (Within bm w.material W) p

def World.manager (w : World bm) : Manager w.σ := ⟨bm, w.backendOf, w.prims⟩

section Serve

variable (limits : BrokerLimits) (authGen gateGen : Generation) (ctx : RequestContext)

def serve (w : World bm) : WriteRequest → Proc w.σ Status Unit
  | .setSecret secretId value => do
      let _ ← Secrets.setSecret w.manager limits authGen ctx secretId value
      return ()
  | .rotateSecret secretId => do
      let _ ← Secrets.rotateSecret w.manager limits w.recipes authGen ctx secretId
      return ()
  | .newKey body => do
      let _ ← newKey w.manager authGen gateGen ctx w.entropy body
      return ()
  | .importKey body => do
      let _ ← importKey w.manager limits authGen ctx body
      return ()
  | .importSet entries => do
      let _ ← importSet w.manager limits authGen ctx entries
      return ()

/-- The policy lets the caller write `key` by some operation. -/
def MayWrite (g : Generation) (ctx : RequestContext) (key : String) : Prop :=
  ∃ actor op, g.pdp.resolveLocalActor ctx.peer = .ok actor ∧ op.isWrite = true ∧
    g.pdp.allows actor op key = true

/-- Whatever the store, every catalog key whose material changes is one the caller may write. -/
def Confined (bm : BackendManager) (request : WriteRequest) : Prop :=
  ∀ (w : World bm) (s : w.σ) (key : String) (entry : KeyEntry),
    bm.catalog.keys.get? key = some entry → ∀ loc ∈ locations entry,
      w.material loc ((serve limits authGen gateGen ctx w request).exec s).2 ≠ w.material loc s →
        MayWrite authGen ctx key

end Serve

/-! ### The locations a request may write -/

def Recipient (bm : BackendManager) (key : String) (routed : Routed) : Prop :=
  bm.resolve key = .ok routed ∧ routed.entry.keyClass ∈ [KeyClass.value, KeyClass.publicKey]

def RecipeWrites (bm : BackendManager) (keyId : String) (routed : Routed) (loc : Location) :
    GenerateSpec → Prop
  | .selfSignedTls _ _ =>
      match bm.tlsPairKeyForCert keyId with
      | none => loc = routed.location
      | some pair => ∃ partner, Recipient bm pair partner ∧
          (loc = partner.location ∨ loc = routed.location)
  | .selfSignedTlsPairOf pairOf =>
      (∃ entry commonName validity, bm.catalog.keys.get? pairOf = some entry ∧
        entry.generate = some (.selfSignedTls commonName validity)) ∧
      (loc = routed.location ∨ ∃ partner, Recipient bm pairOf partner ∧ loc = partner.location)
  | _ => loc = routed.location

def Generated (routed : Routed) (keyType : Int) (gate : Bool) : Prop :=
  (∃ alg native provider, routed.entry.keyType.bind mlDsaSignatureAlgorithm = some alg ∧
    ensureMlDsaKeyTypeMatches keyType alg "new_key" = .ok () ∧
    routed.entry.keyClass = .asymmetric ∧
    selectProvider (fromKey routed.entry) native gate "generate" = .ok provider ∧
    (provider = .localSoftware → routed.storageKey ≠ none)) ∨
  (∃ kem, routed.entry.keyType.bind mlDsaSignatureAlgorithm = none ∧
    routed.entry.keyType.bind mlKemProviderAlgorithm = some kem ∧
    ensureMlKemKeyTypeMatches keyType kem "new_key" = .ok () ∧
    routed.entry.keyClass = .sealing ∧
    selectProvider (fromKey routed.entry) false gate "generate" =
      .ok .localSoftware ∧
    routed.storageKey ≠ none)

def ImportTarget (bm : BackendManager) (keyId : String) (keyType : KeyType) (routed : Routed) : Prop :=
  bm.resolve keyId = .ok routed ∧
    routed.entry.keyClass ∈ [KeyClass.asymmetric, KeyClass.symmetric] ∧
    routed.engine ≠ .kv2 ∧ routed.requireMintIfAsymmetric "import" keyType = .ok ()

def RotateWrites (bm : BackendManager) (keyId : String) (routed : Routed) (loc : Location) : Prop :=
  (routed.entry.keyClass ∈ [KeyClass.asymmetric, KeyClass.symmetric] ∧ routed.engine ≠ .kv2 ∧
    loc = routed.location) ∨
  (routed.entry.keyClass = .value ∧ ∃ spec, routed.entry.generate = some spec ∧
    RecipeWrites bm keyId routed loc spec)

section Writes

variable (bm : BackendManager) (limits : BrokerLimits) (authGen gateGen : Generation)
  (ctx : RequestContext)

/-- The checks that come before any backend call let the request reach a write at `loc`. -/
def Writes (loc : Location) : WriteRequest → Prop
  | .setSecret secretId value =>
      ∃ actor routed, authorizeInGeneration authGen ctx .set secretId = .ok actor ∧
        value.length ≤ limits.maxPayloadSize ∧ bm.resolve secretId = .ok routed ∧
        routed.entry.keyClass = .value ∧ loc = routed.location
  | .rotateSecret secretId =>
      ∃ actor routed, authorizeInGeneration authGen ctx .rotate secretId = .ok actor ∧
        bm.resolve secretId = .ok routed ∧ routed.entry.nixCache = none ∧
        RotateWrites bm secretId routed loc
  | .newKey body =>
      ∃ actor uid routed, authorizeInGeneration authGen ctx .newKey body.keyId = .ok actor ∧
        requireUnixUid actor "new_key" = .ok uid ∧ bm.resolve body.keyId = .ok routed ∧
        Generated routed body.keyType (providerGate gateGen actor body.keyId) ∧
        loc = routed.location
  | .importKey body =>
      ∃ actor material keyType routed,
        authorizeInGeneration authGen ctx .importKey body.keyId = .ok actor ∧
        requestMaterial body.material "import" = .ok material ∧
        material.len ≤ limits.maxPayloadSize ∧ requestKeyType body.keyType "import" = .ok keyType ∧
        ImportTarget bm body.keyId keyType routed ∧ loc = routed.location
  | .importSet entries =>
      ∃ done keyId keyType material rest routed,
        importSetParse authGen ctx entries = .ok (done ++ (keyId, keyType, material) :: rest) ∧
        importSetTotal (done ++ (keyId, keyType, material) :: rest) ≤ limits.maxPayloadSize ∧
        (∀ e ∈ done, ∃ target, ImportTarget bm e.1 e.2.1 target) ∧
        ImportTarget bm keyId keyType routed ∧ loc = routed.location

def WritesAllowed (request : WriteRequest) : Prop :=
  ∀ loc, Writes bm limits authGen gateGen ctx loc request → ∀ key entry,
    bm.catalog.keys.get? key = some entry → loc ∈ locations entry → MayWrite authGen ctx key

end Writes

/-! ### A store that loses one location -/

def touch {α : Type} (answer : Except BackendError Unit) (target loc : Location) (a : α) :
    Proc Bool BackendError α :=
  .ofFun fun s => if loc = target then (answer.map fun _ => a, true) else (.ok a, s)

def lost : Except BackendError Unit := .error (.transport "connection reset")

theorem keeps_touch {α : Type} (bm : BackendManager) (answer : Except BackendError Unit)
    (target loc : Location) (a : α) :
    Keeps (Within bm (fun place s => decide (place = target) && s) (· = loc))
      (touch answer target loc a) := by
  intro s place _ hother
  by_cases hloc : loc = target
  · have hplace : place ≠ target := fun h => hother (h.trans hloc.symm)
    simp [hplace]
  · simp [touch, hloc]

def recorderBackend (answer : Except BackendError Unit) (target : Location) (native : Bool)
    (name : String) : Backend Bool where
  newKey := fun _ => pure ⟨"", []⟩
  createNamedKey := fun path _ => touch answer target ⟨name, path⟩ ⟨path, []⟩
  createNamedPqcKey := fun path _ => touch answer target ⟨name, path⟩ ⟨path, []⟩
  publicKey := fun _ => pure []
  importKey := fun path _ _ => touch answer target ⟨name, path⟩ ⟨path, []⟩
  sign := fun _ _ => pure []
  verify := fun _ _ _ => pure true
  supportsNativeAlgorithm := fun _ => native
  encrypt := fun _ alg plaintext _ => pure ⟨alg, 1, [], plaintext⟩
  rotate := fun path => touch answer target ⟨name, path⟩ 2
  kvGet := fun path _ => .fail (.keyNotFound path)
  kvPut := fun path _ => touch answer target ⟨name, path⟩ 1
  configureVersions := fun _ _ _ => pure ()

def recorderRecipes : Recipes := ⟨fun _ => 0, fun n => .fill n 0, [], fun _ _ _ => .ok ⟨[], []⟩⟩

def recorderPrims : Primitives where
  b64Encode := fun _ => ""
  b64Decode := fun _ => some []
  recordToVec := fun _ => some []
  recordFromSlice := fun _ => none
  mlDsaPublicFromSeed := fun _ _ => some []
  mlDsaSign := fun _ _ _ => some []
  mlDsaVerify := fun _ _ _ _ => some true
  mlKemPublicFromSeed := fun _ _ => some []
  ed25519Sign := fun _ _ => .fill 64 0
  ed25519Verify := fun _ _ _ => true

def recorder (bm : BackendManager) (answer : Except BackendError Unit) (target : Location)
    (native : Bool) : World bm where
  σ := Bool
  M := Bool
  material := fun loc s => decide (loc = target) && s
  backendOf := recorderBackend answer target native
  prims := recorderPrims
  recipes := recorderRecipes
  entropy := ⟨.fill mlDsaSeedLen 0, .fill mlKemSeedLen 0⟩
  newKey := fun _ _ => keeps_pure _
  createNamedKey := fun _ _ _ => keeps_touch bm answer target _ _
  createNamedPqcKey := fun _ _ _ => keeps_touch bm answer target _ _
  importKey := fun _ _ _ _ => keeps_touch bm answer target _ _
  rotate := fun _ _ => keeps_touch bm answer target _ _
  configureVersions := fun _ _ _ _ => keeps_pure _
  kvPut := fun _ _ _ => keeps_touch bm answer target _ _
  kvGet := fun _ _ _ => keeps_fail _
  encrypt := fun _ _ _ _ _ => keeps_pure _

def Reaches {ε α : Type} (p : Proc Bool ε α) : Prop := ∃ e, p.exec false = (.error e, true)

section Reaches

variable {target : Location} {ε ε' α β : Type}

theorem reaches_touch (a : α) : Reaches (touch lost target target a) :=
  ⟨.transport "connection reset", by simp [touch, lost, Except.map]⟩

theorem exec_touch_ne {loc : Location} (a : α) (h : loc ≠ target) :
    (touch lost target loc a).exec false = (.ok a, false) := by
  simp [touch, h]

variable {p : Proc Bool ε α} {f : α → Proc Bool ε β} {a : α}

theorem Reaches.changes (h : Reaches p) : (p.exec false).2 ≠ false := by
  obtain ⟨_, he⟩ := h
  rw [he]
  simp

theorem reaches_bind (h : Reaches p) : Reaches (p >>= f) := by
  obtain ⟨e, he⟩ := h
  exact ⟨e, exec_bind_of_error he⟩

theorem reaches_bind_of_ok (hp : p.exec false = (.ok a, false)) (h : Reaches (f a)) :
    Reaches (p >>= f) := by
  obtain ⟨e, he⟩ := h
  exact ⟨e, (exec_bind_of_ok hp).trans he⟩

theorem reaches_check {x : Except ε α} (hx : x = .ok a) (h : Reaches (f a)) :
    Reaches (check x >>= f) :=
  reaches_bind_of_ok (by rw [hx, exec_check]) h

theorem reaches_mapErr (g : ε → ε') (h : Reaches p) : Reaches (p.mapErr g) := by
  obtain ⟨e, he⟩ := h
  exact ⟨g e, by rw [exec_mapErr, he]; rfl⟩

end Reaches

/-! ### Where a procedure writes -/

/-- In no store does `p` change the catalog outside `P`, and each place of `P` is written in the
store that loses it, whose backends have every native algorithm or none (`native`). -/
structure Footprint {ε α : Type} (p : (w : World bm) → Proc w.σ ε α) (P : Bool → Location → Prop) :
    Prop where
  within : ∀ w : World bm, w.Spares (fun loc => ∃ native, P native loc) (p w)
  reached : ∀ native loc, P native loc → Reaches (p (recorder bm lost loc native))

section Rules

variable {ε ε' α β : Type} {p : (w : World bm) → Proc w.σ ε α}
  {f : (w : World bm) → α → Proc w.σ ε β} {P Q : Bool → Location → Prop} {keyId : String}

theorem spares_mono {w : World bm} {W W' : Location → Prop} {p : Proc w.σ ε α} (h : w.Spares W p)
    (hle : ∀ loc, W loc → W' loc) : w.Spares W' p :=
  fun s loc hin hout => h s loc hin fun hloc => hout (hle loc hloc)

theorem spares_read {w : World bm} {W : Location → Prop} {p : Proc w.σ ε α}
    (h : w.Spares (fun _ => False) p) : w.Spares W p :=
  spares_mono h fun _ => False.elim

theorem footprint_put (target : Location) (hw : ∀ w : World bm, w.Spares (· = target) (p w))
    (hr : ∀ native, Reaches (p (recorder bm lost target native))) :
    Footprint p fun _ loc => loc = target where
  within w := spares_mono (hw w) fun _ hloc => ⟨false, hloc⟩
  reached native _ hloc := hloc ▸ hr native

theorem Footprint.of_iff (h : Footprint p P) (hiff : ∀ native loc, P native loc ↔ Q native loc) :
    Footprint p Q := by
  obtain rfl : P = Q := funext fun native => funext fun loc => propext (hiff native loc)
  exact h

theorem Footprint.mapErr (g : ε → ε') (h : Footprint p P) : Footprint (fun w => (p w).mapErr g) P where
  within w := keeps_mapErr g (h.within w)
  reached native loc hloc := reaches_mapErr g (h.reached native loc hloc)

theorem Footprint.check {x : Except ε α} {P : α → Bool → Location → Prop}
    (h : ∀ a, x = .ok a → Footprint (fun w => f w a) (P a)) :
    Footprint (fun w => check x >>= f w) fun native loc => ∃ a, x = .ok a ∧ P a native loc where
  within w := by
    apply keeps_check_bind
    intro a ha
    exact spares_mono ((h a ha).within w) fun loc ⟨native, hloc⟩ => ⟨native, a, ha, hloc⟩
  reached native loc := by
    rintro ⟨a, ha, hloc⟩
    exact reaches_check ha ((h a ha).reached native loc hloc)

theorem Footprint.route {f : (w : World bm) → Routed → Proc w.σ ManagerError β}
    {P : Routed → Bool → Location → Prop}
    (h : ∀ routed, bm.resolve keyId = .ok routed → Footprint (fun w => f w routed) (P routed)) :
    Footprint (fun w => w.manager.route keyId >>= f w)
      fun native loc => ∃ routed, bm.resolve keyId = .ok routed ∧ P routed native loc :=
  (Footprint.check fun routed hroute => h routed (mapError_eq_ok.mp hroute)).of_iff
    fun _ _ => by simp

/-- What comes after the writes changes nothing else. -/
theorem Footprint.andThen (h : Footprint p P)
    (hf : ∀ (w : World bm) a, w.Spares (fun loc => ∃ native, P native loc) (f w a)) :
    Footprint (fun w => p w >>= f w) P where
  within w := keeps_bind (h.within w) (hf w)
  reached native loc hloc := reaches_bind (h.reached native loc hloc)

theorem Footprint.map {g : α → β} (h : Footprint p P) :
    Footprint (fun w => p w >>= fun a => pure (g a)) P :=
  h.andThen fun _ _ => keeps_pure _

theorem Footprint.seq (hp : Footprint p P) (ok : Prop)
    (hok : ∀ w s a s', (p w).exec s = (.ok a, s') → ok)
    (hskip : ok → ∀ native loc, ¬ P native loc →
      ∃ a, (p (recorder bm lost loc native)).exec false = (.ok a, false))
    (hf : ∀ a, Footprint (fun w => f w a) Q) :
    Footprint (fun w => p w >>= f w) fun native loc => P native loc ∨ ok ∧ Q native loc where
  within w := by
    apply keeps_bind_of_ok
    · exact spares_mono (hp.within w) fun loc ⟨native, hloc⟩ => ⟨native, .inl hloc⟩
    · intro a s s' hrun
      exact spares_mono ((hf a).within w) fun loc ⟨native, hloc⟩ =>
        ⟨native, .inr ⟨hok w s a s' hrun, hloc⟩⟩
  reached native loc hloc := by
    by_cases hfirst : P native loc
    · exact reaches_bind (hp.reached native loc hfirst)
    · obtain ⟨hdone, hrest⟩ := hloc.resolve_left hfirst
      obtain ⟨a, ha⟩ := hskip hdone native loc hfirst
      exact reaches_bind_of_ok ha ((hf a).reached native loc hrest)

/-- What comes before the writes only reads, and succeeds in the store that loses a place. -/
theorem Footprint.after (hw : ∀ w : World bm, w.Spares (fun _ => False) (p w))
    (hr : ∀ native loc, ∃ a, (p (recorder bm lost loc native)).exec false = (.ok a, false))
    (h : ∀ a, Footprint (fun w => f w a) P) : Footprint (fun w => p w >>= f w) P where
  within w := keeps_bind (spares_read (hw w)) fun a => (h a).within w
  reached native loc hloc := by
    obtain ⟨a, ha⟩ := hr native loc
    exact reaches_bind_of_ok ha ((h a).reached native loc hloc)

end Rules

section Sequence

variable {ι : Type} {T : ι → Routed → Prop} {loc : Location}

/-- A place one of the items is for, all items before it having one. -/
def Places (T : ι → Routed → Prop) (items : List ι) (loc : Location) : Prop :=
  ∃ done item rest routed, items = done ++ item :: rest ∧ (∀ e ∈ done, ∃ target, T e target) ∧
    T item routed ∧ loc = routed.location

@[simp] theorem places_nil : ¬ Places T [] loc := by
  rintro ⟨_, _, _, _, hsplit, -⟩
  simp at hsplit

@[simp] theorem places_cons (item : ι) (items : List ι) : Places T (item :: items) loc ↔
    (∃ target, T item target ∧ loc = target.location) ∨
      (∃ target, T item target) ∧ Places T items loc := by
  constructor
  · rintro ⟨_ | ⟨_, done⟩, item, rest, routed, hsplit, hdone, htarget, hloc⟩
    · cases hsplit
      exact .inl ⟨routed, htarget, hloc⟩
    · cases hsplit
      obtain ⟨hfirst, hdone⟩ := List.forall_mem_cons.mp hdone
      exact .inr ⟨hfirst, done, item, rest, routed, rfl, hdone, htarget, hloc⟩
  · rintro (⟨target, htarget, hloc⟩ | ⟨hfirst, done, item', rest, routed, rfl, hdone, htarget, hloc⟩)
    · exact ⟨[], item, items, target, rfl, nofun, htarget, hloc⟩
    · exact ⟨item :: done, item', rest, routed, rfl, List.forall_mem_cons.mpr ⟨hfirst, hdone⟩, htarget,
        hloc⟩

end Sequence

section Footprints

variable {w : World bm} {keyId : String} {keyType : KeyType} {material : KeyMaterial}
  {routed : Routed} {gate native : Bool} {target : Location}

theorem importKey_footprint (keyId : String) (keyType : KeyType) (material : KeyMaterial) :
    Footprint (fun w : World bm => w.manager.importKey keyId keyType material)
      fun _ loc => ∃ routed, ImportTarget bm keyId keyType routed ∧ loc = routed.location := by
  refine (Footprint.route fun routed _ => .check fun _ _ => .check fun _ _ => .check fun _ _ =>
    .mapErr _ (footprint_put routed.location (fun w => w.importKey _ _ keyType material)
      fun _ => reaches_touch _)).of_iff ?_
  simp [ImportTarget, requireClass, and_assoc, Unique.exists_iff]

theorem importKey_ok {s s' : w.σ} {key : NewKey}
    (h : (w.manager.importKey keyId keyType material).exec s = (.ok key, s')) :
    ∃ target, ImportTarget bm keyId keyType target := by
  simp only [Manager.importKey, Manager.route, requireClass, exec_ok, eq_ok] at h
  obtain ⟨routed, _, ⟨hroute, rfl⟩, _, _, ⟨hclass, rfl⟩, _, _, ⟨hengine, rfl⟩, _, _, ⟨hmint, -⟩, -⟩ := h
  exact ⟨routed, hroute, hclass, hengine, hmint⟩

theorem exec_importKey_ne (h : ImportTarget bm keyId keyType routed) (hne : routed.location ≠ target) :
    ((recorder bm lost target native).manager.importKey keyId keyType material).exec false =
      (.ok ⟨routed.entry.path, []⟩, false) := by
  obtain ⟨hroute, hclass, hengine, hmint⟩ := h
  apply exec_check_step (mapError_eq_ok.mpr hroute)
  apply exec_check_step (ensure_pos hclass _)
  apply exec_check_step (ensure_pos hengine _)
  apply exec_check_step hmint
  apply exec_mapErr_ok.mpr
  exact exec_touch_ne _ hne

theorem importAll_footprint (parsed : List (String × KeyType × KeyMaterial)) :
    Footprint (fun w : World bm => importAll w.manager parsed)
      fun _ => Places (fun e => ImportTarget bm e.1 e.2.1) parsed := by
  induction parsed with
  | nil => exact ⟨fun _ => keeps_pure _, fun _ _ hloc => absurd hloc places_nil⟩
  | cons e parsed ih =>
    obtain ⟨keyId, keyType, material⟩ := e
    -- a key is imported only after every one before it was
    refine (((importKey_footprint keyId keyType material).mapErr _).seq
      (∃ target, ImportTarget bm keyId keyType target) ?_ ?_ fun _ => ih.map).of_iff
      fun _ _ => by rw [places_cons]
    · intro w s key s' himported
      exact importKey_ok (exec_mapErr_ok.mp himported)
    · rintro ⟨target, htarget⟩ _ _ hout
      refine ⟨_, exec_mapErr_ok.mpr (exec_importKey_ne htarget ?_)⟩
      intro hloc
      exact hout ⟨target, htarget, hloc.symm⟩

/-! A rotation of a value writes what its recipe generates. -/

theorem tryExistingValue_ok {key : String} {s s' : w.σ} {value : Option Bytes}
    (h : (w.manager.tryExistingValue key).exec s = (.ok value, s')) :
    ∃ routed, Recipient bm key routed := by
  simp only [Manager.tryExistingValue, Manager.route, requireClass, exec_ok, eq_ok] at h
  obtain ⟨routed, _, ⟨hroute, rfl⟩, _, _, ⟨hclass, -⟩, -⟩ := h
  exact ⟨routed, hroute, hclass⟩

theorem keeps_tryExistingValue {W : Location → Prop} (key : String) :
    w.Spares W (w.manager.tryExistingValue key) := by
  apply keeps_check_bind
  intro routed _
  apply keeps_check_bind
  intro _ _
  apply keeps_bind
  · apply keeps_attempt
    exact spares_read (w.kvGet routed.entry.backend routed.entry.path none)
  · intro read
    match read with
    | .ok kv => exact keeps_pure _
    | .error err =>
      cases err with
      | keyNotFound => exact keeps_pure _
      | _ => exact keeps_fail _

theorem keeps_generatedWrites {W : Location → Prop} (keyId : String) (spec : GenerateSpec) :
    w.Spares W (w.manager.generatedWritesForKey w.recipes keyId spec) := by
  cases spec with
  | selfSignedTls =>
    simp only [Manager.generatedWritesForKey]
    cases w.manager.tlsPairKeyForCert keyId with
    | none => exact keeps_check_bind fun _ _ => keeps_pure _
    | some pair =>
      apply keeps_bind (keeps_tryExistingValue pair)
      intro existing
      exact keeps_check_bind fun _ _ => keeps_pure _
  | selfSignedTlsPairOf =>
    refine keeps_check_bind fun recipe _ => ?_
    exact keeps_check_bind fun _ _ => keeps_pure _
  | _ => exact keeps_check_bind fun _ _ => keeps_pure _

def recipeKeys (bm : BackendManager) (keyId : String) : GenerateSpec → List String
  | .selfSignedTls _ _ => (bm.tlsPairKeyForCert keyId).toList ++ [keyId]
  | .selfSignedTlsPairOf pairOf => [keyId, pairOf]
  | _ => [keyId]

def RecipeRuns (bm : BackendManager) (keyId : String) : GenerateSpec → Prop
  | .selfSignedTls _ _ => ∀ pair ∈ bm.tlsPairKeyForCert keyId, ∃ partner, Recipient bm pair partner
  | .selfSignedTlsPairOf pairOf => ∃ entry commonName validity,
      bm.catalog.keys.get? pairOf = some entry ∧
        entry.generate = some (.selfSignedTls commonName validity)
  | _ => True

theorem generatedWrites_ok {spec : GenerateSpec} {s s' : w.σ} {writes : List GeneratedWrite}
    (h : (w.manager.generatedWritesForKey w.recipes keyId spec).exec s = (.ok writes, s')) :
    RecipeRuns bm keyId spec ∧ ∀ loc, Places (Recipient bm) (writes.map GeneratedWrite.keyId) loc →
      Places (Recipient bm) (recipeKeys bm keyId spec) loc := by
  cases spec with
  | selfSignedTls =>
    have hpair : w.manager.tlsPairKeyForCert keyId = bm.tlsPairKeyForCert keyId := rfl
    simp only [Manager.generatedWritesForKey, hpair] at h
    simp only [RecipeRuns, recipeKeys]
    cases hkey : bm.tlsPairKeyForCert keyId with
    | none =>
      simp only [hkey, exec_bind_ok] at h
      obtain ⟨material, _, -, hreturn⟩ := h
      cases hreturn
      simp
    | some pair =>
      simp only [hkey, exec_bind_ok] at h
      obtain ⟨existing, _, hexisting, material, _, -, hreturn⟩ := h
      cases hreturn
      have hpartner := tryExistingValue_ok hexisting
      refine ⟨fun p hp => Option.mem_some_iff.mp hp ▸ hpartner, fun loc hloc => ?_⟩
      cases existing with
      | none => exact hloc
      | some value => exact (places_cons _ _).mpr (.inr ⟨hpartner, hloc⟩)
  | selfSignedTlsPairOf =>
    simp only [Manager.generatedWritesForKey, Manager.tlsCertRecipe, exec_ok, eq_ok] at h
    obtain ⟨⟨commonName, validity⟩, _, ⟨⟨entry, hentry, hrecipe⟩, -⟩, material, _, -, rfl, rfl⟩ := h
    refine ⟨⟨entry, commonName, validity, hentry, ?_⟩, fun _ => id⟩
    split at hrecipe
    · next hgenerate =>
      cases hrecipe
      exact hgenerate
    · cases hrecipe
  | _ =>
    simp only [Manager.generatedWritesForKey, exec_bind_ok] at h
    obtain ⟨value, _, -, hreturn⟩ := h
    cases hreturn
    exact ⟨trivial, fun _ => id⟩

theorem exec_tryExistingValue {key : String} (h : Recipient bm key routed) :
    ((recorder bm lost target native).manager.tryExistingValue key).exec false = (.ok none, false) := by
  apply exec_check_step (mapError_eq_ok.mpr h.1)
  apply exec_check_step (ensure_pos h.2 _)
  rfl

theorem exec_generatedWrites {spec : GenerateSpec} (h : RecipeRuns bm keyId spec) :
    ∃ writes, writes.map GeneratedWrite.keyId = recipeKeys bm keyId spec ∧
      ((recorder bm lost target native).manager.generatedWritesForKey recorderRecipes keyId spec).exec
        false = (.ok writes, false) := by
  cases spec with
  | selfSignedTls =>
    have hpair : (recorder bm lost target native).manager.tlsPairKeyForCert keyId =
      bm.tlsPairKeyForCert keyId := rfl
    simp only [Manager.generatedWritesForKey, hpair, recipeKeys]
    cases hkey : bm.tlsPairKeyForCert keyId with
    | none => exact ⟨[⟨keyId, []⟩], rfl, rfl⟩
    | some pair =>
      obtain ⟨_, hpartner⟩ := h pair hkey
      refine ⟨[⟨pair, []⟩, ⟨keyId, []⟩], rfl, ?_⟩
      exact exec_bind_of_ok (exec_tryExistingValue hpartner)
  | selfSignedTlsPairOf pairOf =>
    obtain ⟨entry, commonName, validity, hentry, hgenerate⟩ := h
    have hrecipe : (recorder bm lost target native).manager.tlsCertRecipe pairOf =
        .ok (commonName, validity) := by
      have hget : (recorder bm lost target native).manager.catalog.keys.get? pairOf = some entry := hentry
      simp [Manager.tlsCertRecipe, hget, hgenerate, orErr]
    exact ⟨[⟨keyId, []⟩, ⟨pairOf, []⟩], rfl, exec_check_step hrecipe rfl⟩
  | _ => exact ⟨[⟨keyId, _⟩], rfl, rfl⟩

theorem putWrites_footprint (keyId : String) (writes : List GeneratedWrite) (rotated : Option Nat) :
    Footprint (fun w : World bm => w.manager.putWrites keyId writes rotated)
      fun _ => Places (Recipient bm) (writes.map GeneratedWrite.keyId) := by
  induction writes generalizing rotated with
  | nil => exact ⟨fun _ => keeps_pure _, fun _ _ hloc => absurd hloc places_nil⟩
  | cons write writes ih =>
    refine (Footprint.route fun routed _ => .check fun _ _ => .seq (.mapErr _
      (footprint_put routed.location (fun w => w.kvPut _ _ write.value) fun _ =>
        reaches_touch _)) True (fun _ _ _ _ _ => trivial) ?_ fun _ => ih _).of_iff ?_
    · intro _ native loc hout
      exact ⟨_, exec_mapErr_ok.mpr (exec_touch_ne _ fun hloc => hout hloc.symm)⟩
    · intro _ loc
      simp only [requireClass, ensure_eq_ok, List.map_cons, places_cons, Recipient]
      grind

theorem rotateCrypto_footprint (limits : BrokerLimits) (routed : Routed) :
    Footprint (fun w : World bm => w.manager.rotateCrypto limits routed)
      fun _ loc => loc = routed.location := by
  refine (Footprint.mapErr _ (footprint_put routed.location (fun w => w.rotate _ _) fun _ =>
    reaches_touch _)).andThen ?_
  intro w version
  apply keeps_bind
  · apply keeps_attempt
    exact spares_mono (w.configureVersions _ _ _ _) fun _ hloc => ⟨false, hloc⟩
  · intro configured
    match configured with
    | .ok () => exact keeps_pure _
    | .error err =>
      cases err with
      | unsupported => exact keeps_pure _
      | _ => exact keeps_fail _

theorem recipeWrites_iff (hself : Recipient bm keyId routed) (spec : GenerateSpec) (loc : Location) :
    RecipeWrites bm keyId routed loc spec ↔
      RecipeRuns bm keyId spec ∧ Places (Recipient bm) (recipeKeys bm keyId spec) loc := by
  have hown : (∃ target, Recipient bm keyId target ∧ loc = target.location) ↔ loc = routed.location := by
    constructor
    · rintro ⟨target, ⟨hroute, -⟩, rfl⟩
      rw [Except.ok.inj (hroute.symm.trans hself.1)]
    · rintro rfl
      exact ⟨routed, hself, rfl⟩
  have hsome : ∃ target, Recipient bm keyId target := ⟨routed, hself⟩
  cases spec with
  | selfSignedTls =>
    simp only [RecipeWrites, RecipeRuns, recipeKeys]
    cases bm.tlsPairKeyForCert keyId with
    | none => simp [hown]
    | some pair =>
      simp [hown]
      grind
  | selfSignedTlsPairOf => simp [RecipeWrites, RecipeRuns, recipeKeys, hown, hsome]
  | _ => simp [RecipeWrites, RecipeRuns, recipeKeys, hown]

theorem rotateValue_footprint (hroute : bm.resolve keyId = .ok routed)
    (hclass : routed.entry.keyClass = .value) :
    Footprint (fun w : World bm => w.manager.rotateValue w.recipes keyId routed) fun _ loc =>
      ∃ spec, routed.entry.generate = some spec ∧ RecipeWrites bm keyId routed loc spec := by
  have hself : Recipient bm keyId routed := ⟨hroute, by simp [hclass]⟩
  refine (Footprint.check (P := fun spec _ loc => RecipeWrites bm keyId routed loc spec)
    fun spec _ => ⟨?_, ?_⟩).of_iff fun _ _ => by simp
  · intro w
    apply keeps_bind_of_ok (keeps_generatedWrites keyId spec)
    intro writes s s' hwrites
    obtain ⟨hruns, hplaces⟩ := generatedWrites_ok hwrites
    refine keeps_bind (spares_mono ((putWrites_footprint keyId writes none).within w) ?_)
      fun _ => keeps_check _
    rintro loc ⟨native, hloc⟩
    exact ⟨native, (recipeWrites_iff hself spec loc).mpr ⟨hruns, hplaces loc hloc⟩⟩
  · intro native loc hloc
    obtain ⟨hruns, hplaces⟩ := (recipeWrites_iff hself spec loc).mp hloc
    obtain ⟨writes, hkeys, hexec⟩ := exec_generatedWrites hruns
    rw [← hkeys] at hplaces
    exact reaches_bind_of_ok hexec
      (reaches_bind ((putWrites_footprint keyId writes none).reached native loc hplaces))

theorem rotate_footprint (keyId : String) (limits : BrokerLimits) :
    Footprint (fun w : World bm => w.manager.rotate w.recipes keyId limits) fun _ loc =>
      ∃ routed, bm.resolve keyId = .ok routed ∧ routed.entry.nixCache = none ∧
        RotateWrites bm keyId routed loc := by
  refine Footprint.route (P := fun routed _ loc => routed.entry.nixCache = none ∧
    RotateWrites bm keyId routed loc) fun routed hroute => ?_
  by_cases hvalue : routed.entry.keyClass = .value
  · simp only [if_pos hvalue]
    refine (Footprint.check fun _ _ => .check fun _ _ => .check fun _ _ =>
      rotateValue_footprint hroute hvalue).of_iff ?_
    simp [RotateWrites, requireClass, hvalue]
  · simp only [if_neg hvalue]
    refine (Footprint.check fun _ _ => .check fun _ _ => .check fun _ _ =>
      rotateCrypto_footprint limits routed).of_iff ?_
    simp [RotateWrites, requireClass, hvalue]
    tauto

/-! A key generated in place is written where the catalog has it. -/

theorem sealAndStore_footprint {op token storageKey : String} {seed : World bm → Bytes} {pub : Bytes} :
    Footprint (fun w : World bm => LocalSoftwareProvider.sealAndStore w.prims (w.manager.backend routed)
      op keyId routed.entry.path token storageKey (seed w) pub) fun _ loc => loc = routed.location :=
  .after (fun w => keeps_mapErr _ (w.encrypt _ _ _ _ _)) (fun _ _ => ⟨_, rfl⟩) fun _ =>
    .after (fun _ => keeps_check _) (fun _ _ => ⟨_, rfl⟩) fun bytes =>
      .map (.mapErr _ (footprint_put routed.location (fun w => w.kvPut _ _ bytes) fun _ =>
        reaches_touch _))

theorem dispatch_footprint {algorithm : Option NativeAlgorithm} {op token : String} {α : Type}
    {run : (w : World bm) → CryptoProviderId → Proc w.σ ProviderError α}
    {P : CryptoProviderId → Location → Prop} (h : ∀ provider, Footprint (fun w => run w provider)
      fun _ => P provider) :
    Footprint (fun w => w.manager.dispatch routed algorithm gate op token (run w)) fun native loc =>
      ∃ provider, selectProvider (fromKey routed.entry) (algorithm.any fun _ => native)
        gate op = .ok provider ∧ P provider loc where
  within w := by
    apply keeps_check_bind
    intro provider hselect
    refine keeps_bind (keeps_mapErr _ (spares_mono ((h provider).within w) ?_))
      fun _ => keeps_pure _
    rintro loc ⟨-, hloc⟩
    refine ⟨algorithm.any (w.manager.backend routed).supportsNativeAlgorithm, provider, ?_, hloc⟩
    cases algorithm <;> exact mapError_eq_ok.mp hselect
  reached native loc := by
    rintro ⟨provider, hselect, hloc⟩
    apply reaches_check (mapError_eq_ok.mpr hselect)
    exact reaches_bind (reaches_mapErr _ ((h provider).reached native loc hloc))

def MlDsaPlaces (bm : BackendManager) (keyId : String) (gate native : Bool) (loc : Location) : Prop :=
  ∃ routed, bm.resolve keyId = .ok routed ∧ routed.entry.keyClass = .asymmetric ∧
    ∃ alg, routed.entry.keyType.bind mlDsaSignatureAlgorithm = some alg ∧
      ∃ provider, selectProvider (fromKey routed.entry) native gate "generate" =
          .ok provider ∧
        (provider = .localSoftware → routed.storageKey ≠ none) ∧ loc = routed.location

theorem providerGenerate_footprint (keyId : String) (gate : Bool) :
    Footprint (fun w : World bm => w.manager.providerGenerate keyId gate w.entropy.mlDsaSeed)
      (MlDsaPlaces bm keyId gate) := by
  refine (Footprint.route fun routed _ => .check fun _ _ => .check (P := fun _ native loc =>
    ∃ provider, selectProvider (fromKey routed.entry) native gate "generate" =
        .ok provider ∧ (provider = .localSoftware → routed.storageKey ≠ none) ∧ loc = routed.location)
    fun alg halg => ?_).of_iff ?_
  · -- every ML-DSA algorithm has a native form and a software form
    obtain ⟨nativeAlg, mlDsa, hnative, hmlDsa⟩ : ∃ nativeAlg mlDsa,
        alg.nativeAlgorithm = some nativeAlg ∧ alg.mlDsaAlgorithm = some mlDsa := by
      rw [Routed.requireMlDsa, orErr_eq_ok] at halg
      cases hkey : routed.entry.keyType with
      | none => simp [hkey] at halg
      | some keyAlg => cases keyAlg <;> simp [hkey, mlDsaSignatureAlgorithm] at halg <;> subst halg <;>
          exact ⟨_, _, rfl, rfl⟩
    simp only [hnative]
    refine dispatch_footprint fun provider => ?_
    cases provider with
    | vaultTransit =>
      simp only [BackendCryptoProvider.generateKey, hnative]
      refine ((footprint_put routed.location (fun w => w.createNamedPqcKey _ _ nativeAlg)
        fun _ => reaches_touch _).mapErr _).of_iff ?_
      simp
    | localSoftware =>
      refine (Footprint.check fun mlDsa _ => .check fun storageKey _ =>
        .after (fun _ => keeps_check _) (fun _ _ => ⟨_, by rfl⟩) fun _ =>
          sealAndStore_footprint).of_iff ?_
      simp [hmlDsa, LocalSoftwareProvider.requireStorageKey, Option.ne_none_iff_exists']
  · simp [MlDsaPlaces, requireClass, Routed.requireMlDsa]

def MlKemPlaces (bm : BackendManager) (keyId : String) (kem : KemAlgorithm) (gate : Bool)
    (loc : Location) : Prop :=
  ∃ routed, bm.resolve keyId = .ok routed ∧ routed.entry.keyClass = .sealing ∧
    routed.entry.keyType = some kem.keyAlgorithm ∧
    selectProvider (fromKey routed.entry) false gate "generate" = .ok .localSoftware ∧
    routed.storageKey ≠ none ∧ loc = routed.location

theorem providerGenerateSealing_footprint (keyId : String) (kem : KemAlgorithm) (gate : Bool) :
    Footprint (fun w : World bm => w.manager.providerGenerateSealing keyId kem gate w.entropy.mlKemSeed)
      fun _ => MlKemPlaces bm keyId kem gate := by
  have hnative : kem.nativeAlgorithm = none := by cases kem <;> rfl
  refine (Footprint.route fun routed _ => .check fun _ _ => .check fun _ _ => dispatch_footprint
    (P := fun provider loc => provider = .localSoftware ∧ routed.storageKey ≠ none ∧
      loc = routed.location) fun provider => ?_).of_iff ?_
  · cases provider with
    | vaultTransit => exact ⟨fun _ => keeps_fail _, by simp⟩
    | localSoftware =>
      refine (Footprint.check fun storageKey _ => .after (fun _ => keeps_check _)
        (fun _ _ => ⟨_, by rfl⟩) fun _ => sealAndStore_footprint).of_iff ?_
      simp [LocalSoftwareProvider.requireStorageKey, Option.ne_none_iff_exists']
  · simp [MlKemPlaces, requireClass, requireMlKemSealingKey, hnative]

theorem newKey_footprint (keyId : String) (keyType : KeyType) :
    Footprint (fun w : World bm => w.manager.newKey keyId keyType) fun _ _ => False := by
  refine ⟨fun w => ?_, nofun⟩
  apply keeps_check_bind
  intro routed _
  apply keeps_check_bind
  intro _ _
  apply keeps_check_bind
  intro _ _
  exact keeps_mapErr _ (spares_read (w.newKey routed.entry.backend keyType))

def NewKeyPlaces (bm : BackendManager) (keyId : String) (gate native : Bool) (loc : Location) :
    NewKeyRoute → Prop
  | .mlDsa => MlDsaPlaces bm keyId gate native loc
  | .mlKem kem => MlKemPlaces bm keyId kem gate loc
  | .classical _ => False

theorem newKeyServe_footprint (gate : Bool) (body : NewKeyRequest) (route : NewKeyRoute) :
    Footprint (fun w : World bm => newKeyServe w.manager gate w.entropy body route)
      fun native loc => NewKeyPlaces bm body.keyId gate native loc route := by
  cases route with
  | mlDsa => exact ((providerGenerate_footprint body.keyId gate).mapErr _).map
  | mlKem kem => exact ((providerGenerateSealing_footprint body.keyId kem gate).mapErr _).map
  | classical keyType => exact ((newKey_footprint body.keyId keyType).mapErr _).map

end Footprints

section Confined

variable (limits : BrokerLimits) (authGen gateGen : Generation) (ctx : RequestContext)

theorem newKeyPlaces_iff (m : Manager Bool) (gate : AuthenticatedActor → Bool) (body : NewKeyRequest)
    (loc : Location) :
    (∃ native a, newKeyAuthorize m authGen ctx body = .ok a ∧
      NewKeyPlaces m.toBackendManager body.keyId (gate a.1) native loc a.2) ↔
    ∃ actor uid routed, authorizeInGeneration authGen ctx .newKey body.keyId = .ok actor ∧
      requireUnixUid actor "new_key" = .ok uid ∧ m.resolve body.keyId = .ok routed ∧
      Generated routed body.keyType (gate actor) ∧ loc = routed.location := by
  simp only [newKeyAuthorize, eq_ok, Prod.exists, Prod.mk.injEq]
  constructor
  · rintro ⟨native, _, _, ⟨actor, hactor, uid, huid, route, hroute, rfl, rfl⟩, hplace⟩
    cases route with
    | mlDsa =>
      obtain ⟨routed, hresolve, hclass, alg, halg, provider, hselect, hstorage, hloc⟩ := hplace
      refine ⟨actor, uid, routed, hactor, huid, hresolve,
        .inl ⟨alg, native, provider, halg, ?_, hclass, hselect, hstorage⟩, hloc⟩
      simpa [newKeyRoute, Manager.mlDsaAlgorithmFor, hresolve, halg, Unique.exists_iff] using
        hroute
    | mlKem kem =>
      obtain ⟨routed, hresolve, hclass, hkey, hselect, hstorage, hloc⟩ := hplace
      obtain ⟨hno, hkem⟩ : routed.entry.keyType.bind mlDsaSignatureAlgorithm = none ∧
          routed.entry.keyType.bind mlKemProviderAlgorithm = some kem := by
        rw [hkey]
        cases kem <;> exact ⟨rfl, rfl⟩
      refine ⟨actor, uid, routed, hactor, huid, hresolve,
        .inr ⟨kem, hno, hkem, ?_, hclass, hselect, hstorage⟩, hloc⟩
      simpa [newKeyRoute, Manager.mlDsaAlgorithmFor, Manager.mlKemAlgorithmFor, hresolve, hno,
        hkem, Unique.exists_iff] using hroute
    | classical => exact hplace.elim
  · rintro ⟨actor, uid, routed, hactor, huid, hresolve, hgenerated, hloc⟩
    rcases hgenerated with ⟨alg, native, provider, halg, hmatches, hclass, hselect, hstorage⟩ |
      ⟨kem, hno, hkem, hmatches, hclass, hselect, hstorage⟩
    · refine ⟨native, actor, .mlDsa, ⟨actor, hactor, uid, huid, .mlDsa, ?_, rfl, rfl⟩, routed, hresolve,
        hclass, alg, halg, provider, hselect, hstorage, hloc⟩
      simp [newKeyRoute, Manager.mlDsaAlgorithmFor, hresolve, halg, hmatches]
    · have hkeyType : routed.entry.keyType = some kem.keyAlgorithm := by
        cases hkey : routed.entry.keyType with
        | none => simp [hkey] at hkem
        | some keyAlg =>
          cases keyAlg <;> simp [hkey, mlKemProviderAlgorithm] at hkem <;> subst hkem <;> rfl
      refine ⟨false, actor, .mlKem kem, ⟨actor, hactor, uid, huid, .mlKem kem, ?_, rfl, rfl⟩, routed,
        hresolve, hclass, hkeyType, hselect, hstorage, hloc⟩
      simp [newKeyRoute, Manager.mlDsaAlgorithmFor, Manager.mlKemAlgorithmFor, hresolve, hno,
        hkem, hmatches]

theorem serve_footprint (request : WriteRequest) :
    ∃ P, Footprint (fun w : World bm => serve limits authGen gateGen ctx w request) P ∧
      ∀ loc, (∃ native, P native loc) ↔ Writes bm limits authGen gateGen ctx loc request := by
  cases request with
  | setSecret secretId value =>
    refine ⟨_, .map (.check fun _ _ => .check fun _ _ => .mapErr _ (.route fun routed _ =>
      .check fun _ _ => .mapErr _ (footprint_put routed.location
        (fun w => w.kvPut _ _ value) fun _ => reaches_touch _))), ?_⟩
    simp [Writes, requireClass]
  | rotateSecret secretId =>
    refine ⟨_, .map (.check fun _ _ => .mapErr _ (rotate_footprint secretId limits)), ?_⟩
    simp [Writes]
  | newKey body =>
    let m := (recorder bm lost ⟨"", ""⟩ false).manager
    exact ⟨_, .map (.check (x := newKeyAuthorize m authGen ctx body) fun a _ =>
      .map (newKeyServe_footprint (providerGate gateGen a.1 body.keyId) body a.2)),
      newKeyPlaces_iff authGen ctx m (providerGate gateGen · body.keyId) body⟩
  | importKey =>
    refine ⟨_, .map (.check fun _ _ => .check fun _ _ => .check fun _ _ => .check fun _ _ =>
      .mapErr _ (importKey_footprint ..)), ?_⟩
    simp [Writes]
  | importSet =>
    refine ⟨_, .map (.check fun _ _ => .check fun _ _ => .check fun _ _ => importAll_footprint _), ?_⟩
    intro loc
    simp only [Writes, Places, ensure_eq_ok]
    constructor
    · rintro ⟨_, _, -, _, hparsed, _, hcap, done, item, rest, routed, rfl, hdone, htarget, hloc⟩
      exact ⟨done, item.1, item.2.1, item.2.2, rest, routed, hparsed, hcap, hdone, htarget, hloc⟩
    · rintro ⟨done, keyId, _, _, rest, routed, hparsed, hcap, hdone, htarget, hloc⟩
      refine ⟨false, (), ?_, _, hparsed, (), hcap, done, _, rest, routed, rfl, hdone, htarget, hloc⟩
      rintro rfl
      simp [importSetParse] at hparsed

theorem confined_iff_writesAllowed (bm : BackendManager) (limits : BrokerLimits)
    (authGen gateGen : Generation) (ctx : RequestContext) (request : WriteRequest) :
    Confined limits authGen gateGen ctx bm request ↔
      WritesAllowed bm limits authGen gateGen ctx request := by
  obtain ⟨_, hfootprint, hiff⟩ := @serve_footprint bm limits authGen gateGen ctx request
  constructor
  · intro h loc hwrites key entry hkey hloc
    obtain ⟨native, hplace⟩ := (hiff loc).mpr hwrites
    apply h (recorder bm lost loc native) false key entry hkey loc hloc
    intro hsame
    apply (hfootprint.reached native loc hplace).changes
    simpa [recorder] using hsame
  · intro h w s key entry hkey loc hloc hchanged
    apply h loc _ key entry hkey hloc
    by_contra hout
    refine hchanged (hfootprint.within w s loc ⟨key, entry, hkey, hloc⟩ fun hplace => ?_)
    exact hout ((hiff loc).mp hplace)

end Confined

/-! A private key that uid 9100 may rotate, and its certificate, marked not writable. -/

def tlsEntry (path : String) (writable : Bool) (spec : GenerateSpec) : KeyEntry where
  keyClass := .value
  keyType := none
  backend := "vault"
  engine := none
  path := path
  publicPath := none
  writable := writable
  missing := .error
  nixCache := none
  generate := some spec
  sealingPin := none
  labels := ⟨[]⟩
  description := "TLS pair"

def certEntry : KeyEntry := tlsEntry "tls/web.crt" false (.selfSignedTls "web.internal" "90d")

def tlsCatalog : Catalog where
  backends := .single "vault" ⟨.vault, "", [.kv2], [], [], []⟩
  keys := ⟨[("web.cert", certEntry),
    ("web.key", tlsEntry "tls/web.key" true (.selfSignedTlsPairOf "web.cert"))], by decide⟩

def tlsGeneration : Generation where
  id := 1
  catalog := tlsCatalog
  policy :=
    { subjects := .single "svc.api" ⟨.hostProcess, false, .leaf (.processUid (.numeric 9100))⟩
      rules := [⟨["svc.api"], [⟨.rotate, .pattern [.literal "web", .literal "key"], "r1", "op:rotate"⟩]⟩] }
  config := ⟨⟨OrdMap.empty, OrdMap.empty⟩, OrdMap.empty⟩

def tlsManager : BackendManager := ⟨tlsCatalog, ["vault"]⟩

def tlsContext : RequestContext := ⟨⟨none, some 9100, none⟩, some .host⟩

def tlsLimits : BrokerLimits := ⟨1048576, 1048576, 1⟩

theorem cert_not_mayWrite : ¬ MayWrite tlsGeneration tlsContext "web.cert" := by
  rintro ⟨_, _, -, hwrite, hallows⟩
  obtain ⟨_, hentry, -, hwritable, -⟩ := Pdp.decide_isAllow.mp hallows
  cases hentry
  exact absurd (hwritable hwrite) (by decide)

theorem rotate_replaces_unwritable_certificate :
    Loader.Accepts tlsCatalog ∧ certEntry.writable = false ∧
      ¬ MayWrite tlsGeneration tlsContext "web.cert" ∧
      (let w := recorder tlsManager (.ok ()) ⟨"vault", "tls/web.crt"⟩ false
       let r := (serve tlsLimits tlsGeneration tlsGeneration tlsContext w (.rotateSecret "web.key")).exec
        false
       r.1 = .ok () ∧ w.material ⟨"vault", "tls/web.crt"⟩ r.2 ≠
        w.material ⟨"vault", "tls/web.crt"⟩ false) ∧
      ¬ Confined tlsLimits tlsGeneration tlsGeneration tlsContext tlsManager
        (.rotateSecret "web.key") := by
  have hrun : (serve tlsLimits tlsGeneration tlsGeneration tlsContext
      (recorder tlsManager (.ok ()) ⟨"vault", "tls/web.crt"⟩ false) (.rotateSecret "web.key")).exec false =
        (.ok (), true) := by rfl
  refine ⟨⟨_, rfl⟩, rfl, cert_not_mayWrite, ?_, ?_⟩
  · simp only [hrun]
    simp [recorder]
  · intro hconfined
    apply cert_not_mayWrite
    apply hconfined (recorder tlsManager (.ok ()) ⟨"vault", "tls/web.crt"⟩ false) false "web.cert"
      certEntry (by decide) ⟨"vault", "tls/web.crt"⟩ (by decide)
    simp only [hrun]
    simp [recorder]

end Basil.Confinement
