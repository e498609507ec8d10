import Basil.ManagerReads
import Basil.Reload
import Mathlib.Logic.Relation

/-!
# The live manager after a reload (`core/reload.rs`, `core/manager.rs`)

`routing_shape` is meant to cover what the manager took from the catalog. The manager reads more:
provider and storage labels, the NATS role, recipes, sealing pins and the key types a backend
mints.
-/

namespace Basil.Reload

open Option

def Reloadable (current candidate : Catalog) : Prop :=
  ∃ tombstones, ensureReloadable current candidate = .ok () ∧
    ensureNixCacheReloadable current candidate tombstones = .ok ()

def route? (catalog : Catalog) (keyId : String) : Option Routed := do
  let entry ← catalog.keys.get? keyId
  let backendRef ← catalog.backends.get? entry.backend
  return ⟨entry, backendRef, entry.effectiveEngine⟩

structure SameReads (startup candidate : Catalog) : Prop where
  recipe : ∀ keyId, (candidate.keys.get? keyId).bind KeyEntry.generate =
    (startup.keys.get? keyId).bind KeyEntry.generate
  keys : ∀ keyId r r', route? startup keyId = some r → route? candidate keyId = some r' →
    Routed.SameReads keyId r r'

/-! ### What a chain of reloads keeps -/

structure Kept (startup candidate : Catalog) : Prop where
  shape : routingShape startup = routingShape candidate
  identities : ∀ keyId, (startup.keys.get? keyId).map KeyEntry.immutableIdentity =
    (candidate.keys.get? keyId).map KeyEntry.immutableIdentity

variable {entry : KeyEntry} {candidate startup : Catalog} {keyId : String}

theorem Continues.immutableIdentity {next : KeyEntry}
    (h : Option.Rel Continues entry.nixCache next.nixCache) :
    entry.immutableIdentity = next.immutableIdentity := by
  unfold KeyEntry.immutableIdentity
  generalize entry.nixCache = identity, next.nixCache = identity' at h
  cases h with
  | none => rfl
  | some hcontinues =>
    rw [map_some, map_some, hcontinues.keyName_eq, hcontinues.backendVersion_eq]

theorem Reloadable.kept {current : Catalog} (h : Reloadable current candidate) :
    Kept current candidate := by
  obtain ⟨_, hshape, hidentities⟩ := h
  have hshape := ensureReloadable_ok.mp hshape
  have hkept := ensureNixCacheReloadable_ok.mp hidentities
  refine ⟨hshape, ?_⟩
  intro keyId
  have hkey := OrdMap.map_get?_eq (congrArg Prod.snd hshape) keyId
  cases hentry : current.keys.get? keyId with
  | none =>
    rw [hentry, map_none, eq_comm, map_eq_none_iff] at hkey
    rw [hkey]
  | some entry =>
    obtain ⟨_, hnext, hrel⟩ := hkept.continues keyId entry hentry
    rw [hnext, map_some, map_some, Continues.immutableIdentity hrel]

theorem Kept.of_chain (h : Relation.ReflTransGen Reloadable startup candidate) :
    Kept startup candidate := by
  induction h with
  | refl => exact ⟨rfl, fun _ => rfl⟩
  | tail _ hstep ih =>
    have hlast := hstep.kept
    exact ⟨ih.shape.trans hlast.shape, fun keyId => (ih.identities keyId).trans (hlast.identities keyId)⟩

theorem Kept.key (h : Kept startup candidate) (hentry : startup.keys.get? keyId = some entry) :
    ∃ entry', candidate.keys.get? keyId = some entry' ∧ keyShape entry' = keyShape entry ∧
      entry'.immutableIdentity = entry.immutableIdentity := by
  have hkey := OrdMap.map_get?_eq (congrArg Prod.snd h.shape) keyId
  have hidentity := h.identities keyId
  rw [hentry, map_some, eq_comm, map_eq_some_iff] at hkey
  obtain ⟨entry', hentry', hshape⟩ := hkey
  rw [hentry, hentry', map_some, map_some, Option.some.injEq] at hidentity
  exact ⟨entry', hentry', hshape, hidentity.symm⟩

theorem Kept.no_key (h : Kept startup candidate) (hentry : startup.keys.get? keyId = none) :
    candidate.keys.get? keyId = none := by
  have hkey := OrdMap.map_get?_eq (congrArg Prod.snd h.shape) keyId
  rwa [hentry, map_none, eq_comm, map_eq_none_iff] at hkey

theorem Kept.backend (h : Kept startup candidate) (name : String) :
    (candidate.backends.get? name).map backendShape = (startup.backends.get? name).map backendShape :=
  (OrdMap.map_get?_eq (congrArg Prod.fst h.shape) name).symm

theorem sameRoute_of_shape {entry' : KeyEntry} {ref ref' : BackendRef}
    (hkey : keyShape entry' = keyShape entry) (href : backendShape ref' = backendShape ref) :
    Routed.SameRoute ⟨entry, ref, entry.effectiveEngine⟩ ⟨entry', ref', entry'.effectiveEngine⟩ := by
  simp only [keyShape, KeyShape.mk.injEq] at hkey
  obtain ⟨hclass, htype, hbackend, hengine, hpath, hpublic⟩ := hkey
  simp only [backendShape, BackendShape.mk.injEq] at href
  refine ⟨hclass, htype, hbackend, hpath, hpublic, ?_, href.1⟩
  simp [KeyEntry.effectiveEngine, hclass, hengine]

theorem route?_eq_some {catalog : Catalog} {routed : Routed} :
    route? catalog keyId = some routed ↔
      catalog.keys.get? keyId = some routed.entry ∧
        catalog.backends.get? routed.entry.backend = some routed.backendRef ∧
        routed.engine = routed.entry.effectiveEngine := by
  simp only [route?, bind_eq_bind, bind_eq_some_iff, pure_def,
    Option.some.injEq]
  constructor
  · rintro ⟨entry, hentry, _, href, rfl⟩
    exact ⟨hentry, href, rfl⟩
  · rintro ⟨hentry, href, hengine⟩
    exact ⟨routed.entry, hentry, routed.backendRef, href, by rw [← hengine]⟩

section Managers

variable {σ : Type} {startup candidate : Catalog}

variable {catalog : Catalog} {keyId : String} {routed : Routed}

theorem resolve_of_route (env : Surroundings σ) (h : route? catalog keyId = some routed)
    (hbuilt : routed.entry.backend ∈ env.instances) :
    (env.manager catalog).resolve keyId = .ok routed := by
  obtain ⟨hentry, href, hengine⟩ := route?_eq_some.mp h
  have hresolve : (env.manager catalog).resolve keyId = _ :=
    BackendManager.resolve_of_ref hentry href
  rw [← hengine] at hresolve
  exact hresolve.trans (if_pos hbuilt)

/-! ### Enough is the same -/

section Enough

variable (hkept : Kept startup candidate) (hreads : SameReads startup candidate)
include hkept hreads

theorem Kept.entries :
    List.Forall₂ SameListing startup.keys.entries candidate.keys.entries := by
  have hshape : List.Forall₂ (fun e e' => Prod.map id keyShape e = Prod.map id keyShape e')
      startup.keys.entries candidate.keys.entries := by
    have hkeys : startup.keys.entries.map (Prod.map id keyShape) =
        candidate.keys.entries.map (Prod.map id keyShape) := congrArg Prod.snd hkept.shape
    rwa [← List.forall₂_eq_eq_eq, List.forall₂_map_left_iff, List.forall₂_map_right_iff] at hkeys
  rw [List.forall₂_iff_zip] at hshape ⊢
  refine ⟨hshape.1, ?_⟩
  rintro ⟨name, _⟩ ⟨_, _⟩ hmem
  have hpair := hshape.2 hmem
  obtain ⟨hl, hr⟩ := List.of_mem_zip hmem
  simp only [Prod.map_apply, id_eq, Prod.mk.injEq, keyShape, KeyShape.mk.injEq] at hpair
  obtain ⟨rfl, hclass, htype, -⟩ := hpair
  have hrecipe := hreads.recipe name
  rw [OrdMap.get?_eq_some_iff.mpr hl, OrdMap.get?_eq_some_iff.mpr hr] at hrecipe
  exact ⟨rfl, hclass.symm, htype.symm, hrecipe⟩

theorem Kept.resolve (env : Surroundings σ) (keyId : String) :
    (∃ e, (env.manager startup).resolve keyId = .error e ∧
      (env.manager candidate).resolve keyId = .error e) ∨
    ∃ r r', (env.manager startup).resolve keyId = .ok r ∧
      (env.manager candidate).resolve keyId = .ok r' ∧ Routed.Agree keyId r r' := by
  cases hentry : startup.keys.get? keyId with
  | none =>
    left
    refine ⟨.unknownKey keyId, ?_, ?_⟩
    · simp [BackendManager.resolve, Surroundings.manager, hentry, orErr, error_bind]
    · simp [BackendManager.resolve, Surroundings.manager, hkept.no_key hentry, orErr, error_bind]
  | some entry =>
    obtain ⟨entry', hentry', hshape, hidentity⟩ := hkept.key hentry
    have hbackend : entry'.backend = entry.backend := congrArg KeyShape.backend hshape
    have href := hkept.backend entry.backend
    cases hstartup : startup.backends.get? entry.backend with
    | none =>
      rw [hstartup, map_none, map_eq_none_iff] at href
      left
      refine ⟨.unknownBackend keyId entry.backend, ?_, ?_⟩
      · simp [BackendManager.resolve, Surroundings.manager, hentry, hstartup, orErr, ok_bind,
          error_bind]
      · simp [BackendManager.resolve, Surroundings.manager, hentry', hbackend, href, orErr, ok_bind,
          error_bind]
    | some ref =>
      rw [hstartup, map_some, map_eq_some_iff] at href
      obtain ⟨ref', hcandidate, hrefShape⟩ := href
      by_cases hbuilt : entry.backend ∈ env.instances
      · right
        have hr : route? startup keyId = some ⟨entry, ref, entry.effectiveEngine⟩ :=
          route?_eq_some.mpr ⟨hentry, hstartup, rfl⟩
        have hr' : route? candidate keyId = some ⟨entry', ref', entry'.effectiveEngine⟩ :=
          route?_eq_some.mpr ⟨hentry', hbackend ▸ hcandidate, rfl⟩
        have hrecipe := hreads.recipe keyId
        rw [hentry, hentry', bind_some, bind_some] at hrecipe
        exact ⟨_, _, resolve_of_route env hr hbuilt, resolve_of_route env hr' (hbackend ▸ hbuilt),
          { toSameRoute := sameRoute_of_shape hshape hrefShape
            toSameReads := hreads.keys keyId _ _ hr hr'
            identity := hidentity
            recipe := hrecipe }⟩
      · left
        have hlive : (env.manager startup).resolve keyId = _ :=
          BackendManager.resolve_of_ref hentry hstartup
        have hfresh : (env.manager candidate).resolve keyId = _ :=
          BackendManager.resolve_of_ref hentry' (hbackend ▸ hcandidate)
        rw [hbackend] at hfresh
        exact ⟨_, hlive.trans (if_neg hbuilt), hfresh.trans (if_neg hbuilt)⟩

theorem Kept.alike (env : Surroundings σ) :
    (env.manager startup).Alike (env.manager candidate) where
  prims := rfl
  backendOf := rfl
  resolve := hkept.resolve hreads env
  entries := hkept.entries hreads

end Enough

/-! ### The same is needed -/

def probe (startup : Catalog) : Surroundings Unit where
  instances := startup.backends.entries.map Prod.fst
  backendOf := fun _ =>
    { newKey := fun _ => pure ⟨"", []⟩
      publicKey := fun _ => pure []
      sign := fun _ _ => pure []
      verify := fun _ _ _ => pure true }
  nixCacheOf := fun _ => {}
  pkiOf := fun _ => {}
  prims := .refusing
  crypto := .refusing
  cose := Cose.clearEnv
  recipes := ⟨id, fun n => .fill n 0, [], fun _ _ _ => .ok ⟨[], []⟩⟩

theorem probe_built {startup : Catalog} (h : route? startup keyId = some routed) :
    routed.entry.backend ∈ (probe startup).instances := by
  obtain ⟨-, href, -⟩ := route?_eq_some.mp h
  exact List.mem_map.mpr ⟨_, OrdMap.get?_eq_some_iff.mp href, rfl⟩

theorem probe_newKey {startup : Catalog}
    (h : ((probe startup).manager catalog).resolve keyId = .ok routed)
    (hclass : routed.entry.keyClass = .asymmetric) (keyType : KeyType) :
    ((((probe startup).manager catalog).newKey keyId keyType).exec ()).1 = .ok ⟨"", []⟩ ↔
      routed.Mints keyType := by
  have hallowed : requireClass "new_key" keyId routed.entry.keyClass [.asymmetric, .symmetric] =
      .ok () := ensure_pos (by rw [hclass]; decide) _
  have hmint : routed.requireMintIfAsymmetric "new_key" keyType =
      routed.requireMintKeyType "new_key" keyType := if_pos hclass
  simp only [Manager.newKey, Manager.route, h, mapError_ok, Proc.check_ok_bind, hallowed, hmint]
  unfold Routed.requireMintKeyType Routed.Mints
  by_cases hmints : routed.backendDeclaresProvides = false ∨
      KeyAlgorithm.fromWireKeyType keyType ∈ routed.backendRef.mintKeyTypes
  · rw [ensure_pos hmints]
    exact ⟨fun _ => hmints, fun _ => rfl⟩
  · rw [ensure_neg hmints]
    exact ⟨(fun hok => by cases hok), fun h => absurd h hmints⟩

theorem Kept.reads_of_behaviour (hkept : Kept startup candidate)
    (h : SameBehaviour (probe startup) ((probe startup).manager startup)
      ((probe startup).manager candidate)) : SameReads startup candidate where
  recipe := h.recipe
  keys := by
    intro keyId r r' hr hr'
    obtain ⟨hentry, -, -⟩ := route?_eq_some.mp hr
    obtain ⟨hentry', -, -⟩ := route?_eq_some.mp hr'
    obtain ⟨_, hfound, hshape, -⟩ := hkept.key hentry
    rw [hentry', Option.some.injEq] at hfound
    rw [← hfound] at hshape
    have hbackend : r'.entry.backend = r.entry.backend := congrArg KeyShape.backend hshape
    have hclass : r'.entry.keyClass = r.entry.keyClass := congrArg KeyShape.keyClass hshape
    have hbuilt := probe_built hr
    have hlive := resolve_of_route (probe startup) hr hbuilt
    have hfresh := resolve_of_route (probe startup) hr' (hbackend ▸ hbuilt)
    have hselected := h.selection keyId
    rw [hlive, hfresh] at hselected
    have hselection : r'.selection keyId = r.selection keyId := Except.ok.inj hselected
    have hdescribe := congrFun h.describeProvider keyId
    simp only [Manager.describeProvider, hlive, hfresh, mapError_ok, ok_bind] at hdescribe
    have hrole := h.issuerRole keyId ""
    simp only [Nats.issuerRoleFor, Nats.issuerRole, hlive, hfresh, mapError_ok, ok_bind] at hrole
    refine ⟨congrArg Selection.provider hselection, ?_, congrArg Selection.storageKey hselection,
      orErr_inj hrole, congrFun (congrArg Selection.unsealContext hselection), ?_⟩
    · exact congrArg KeyProviderDescriptor.version (Except.ok.inj hdescribe)
    · intro hasymmetric keyType
      have hnew := congrFun (congrFun h.newKey keyId) keyType
      rw [← probe_newKey hlive hasymmetric, ← probe_newKey hfresh (hclass.trans hasymmetric), hnew]

end Managers

/-! ### An issuer whose labels change -/

def issuerKey (labels : List String) (description : String) : KeyEntry :=
  { keyClass := .asymmetric, keyType := some .ed25519Nkey, backend := "bao", engine := some .transit
    path := "issuer", publicPath := none, writable := false, missing := .error, nixCache := none
    generate := none, sealingPin := none, labels := ⟨labels⟩, description := description }

def natsCatalog (labels : List String) (description : String) : Catalog where
  backends := .single "bao" ⟨.vault, "http://127.0.0.1:8200", [], [], [], []⟩
  keys := ⟨[("nats.issuer", issuerKey labels description)], List.pairwise_singleton _ _⟩

theorem natsCatalog_key (labels : List String) (description keyId : String) :
    (natsCatalog labels description).keys.get? keyId =
      if keyId = "nats.issuer" then some (issuerKey labels description) else none := by
  by_cases hkey : keyId = "nats.issuer"
  · rw [hkey]
    rfl
  · have hne : (keyId == "nats.issuer") = false := beq_eq_false_iff_ne.mpr hkey
    simp [OrdMap.get?, natsCatalog, List.lookup_cons, hne, hkey]

theorem natsCatalog_route {labels : List String} {description : String} {routed : Routed}
    (h : route? (natsCatalog labels description) keyId = some routed) :
    routed = ⟨issuerKey labels description, ⟨.vault, "http://127.0.0.1:8200", [], [], [], []⟩,
      .transit⟩ := by
  obtain ⟨_, _, _⟩ := routed
  obtain ⟨hentry, href, hengine⟩ := route?_eq_some.mp h
  rw [natsCatalog_key, ite_none_right_eq_some, Option.some.injEq] at hentry
  obtain ⟨-, rfl⟩ := hentry
  cases href
  cases hengine
  rfl

def accountCatalog : Catalog := natsCatalog ["nats_type=A"] "issuer"

def operatorCatalog : Catalog := natsCatalog ["nats_type=O"] "issuer"

def rewordedCatalog : Catalog := natsCatalog ["nats_type=A", "team=messaging"] "account issuer"

end Basil.Reload
