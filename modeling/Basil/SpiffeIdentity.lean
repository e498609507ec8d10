import Basil.EvidenceRefinement
import Basil.Minting
import Basil.PolicyDocument

/-!
# Whose SPIFFE id an SVID carries

The ids of two callers are told apart exactly as far as the exported name table does.
-/

namespace Basil.SpiffeIdentity

open Minting Svid Loader Evidence

/-- The broker can put `id` into an SVID of the caller under the issuer. -/
def Issuable (g : Generation) (entry : KeyEntry) (uid : Nat) (id : String) : Prop :=
  ∃ requested, requestedOrTemplatedSpiffeId g uid requested entry = .ok id

/-- No two callers share an id under the issuer. -/
def IdentitiesDistinct (g : Generation) (entry : KeyEntry) : Prop :=
  ∀ u v, u ≤ u32Max → v ≤ u32Max → u ≠ v →
    ∀ id, ¬ (Issuable g entry u id ∧ Issuable g entry v id)

def Usable (entry : KeyEntry) (name : String) : Prop :=
  ∃ trustDomain, entry.labels.get "trust_domain" = some trustDomain ∧
    isSpiffeId ("spiffe://" ++ trustDomain ++ "/" ++ name) = true

structure TableTellsApart (users : OrdMap Nat String) (entry : KeyEntry) : Prop where
  names : ∀ u v name, u ≤ u32Max → v ≤ u32Max →
    users.get? u = some name → users.get? v = some name → Usable entry name → u = v
  numbers : ∀ u v, u ≤ u32Max → v ≤ u32Max →
    users.get? u = some (toString v) → users.get? v = none → Usable entry (toString v) → u = v

def segment (users : OrdMap Nat String) (uid : Nat) : String :=
  (users.get? uid).getD (toString uid)

variable {g : Generation} {entry : KeyEntry}

theorem issuable_iff {uid : Nat} {id : String} :
    Issuable g entry uid id ↔
      templatedSpiffeId g uid entry = some id ∧ isSpiffeId id = true := by
  constructor
  · rintro ⟨_, hok⟩
    have hid := requestedOrTemplatedSpiffeId_ok hok
    simp only [requestedOrTemplatedSpiffeId, eq_ok] at hok
    obtain ⟨_, hid', _, hvalid, -⟩ := hok
    rw [hid] at hid'
    cases hid'
    exact ⟨hid, hvalid⟩
  · rintro ⟨hid, hvalid⟩
    refine ⟨"", ?_⟩
    simp [requestedOrTemplatedSpiffeId, hid, hvalid, orErr, ensure]

theorem templated_eq_iff {u v : Nat} {id : String} (hu : templatedSpiffeId g u entry = some id) :
    templatedSpiffeId g v entry = some id ↔
      segment g.config.names.users v = segment g.config.names.users u := by
  simp only [templatedSpiffeId, Option.map_eq_some_iff] at hu ⊢
  obtain ⟨trustDomain, htd, rfl⟩ := hu
  constructor
  · rintro ⟨_, htd', heq⟩
    rw [htd] at htd'
    cases htd'
    have hsame : (g.config.names.users.get? v).getD (toString v) =
        (g.config.names.users.get? u).getD (toString u) := by simpa using heq
    exact hsame
  · intro hsegment
    refine ⟨trustDomain, htd, ?_⟩
    show "spiffe://" ++ trustDomain ++ "/" ++ segment g.config.names.users v = _
    rw [hsegment]
    rfl

theorem usable_segment_iff {uid : Nat} :
    Usable entry (segment g.config.names.users uid) ↔
      ∃ id, templatedSpiffeId g uid entry = some id ∧ isSpiffeId id = true := by
  simp only [Usable, templatedSpiffeId, Option.map_eq_some_iff]
  constructor
  · rintro ⟨trustDomain, htd, hvalid⟩
    exact ⟨_, ⟨trustDomain, htd, rfl⟩, hvalid⟩
  · rintro ⟨_, ⟨trustDomain, htd, rfl⟩, hvalid⟩
    exact ⟨trustDomain, htd, hvalid⟩

theorem distinct_iff_segments :
    IdentitiesDistinct g entry ↔ ∀ u v, u ≤ u32Max → v ≤ u32Max →
      segment g.config.names.users v = segment g.config.names.users u →
      Usable entry (segment g.config.names.users u) → u = v := by
  constructor
  · intro hdistinct u v hu hv hsegment husable
    obtain ⟨id, hid, hvalid⟩ := usable_segment_iff.mp husable
    by_contra hne
    exact hdistinct u v hu hv hne id ⟨issuable_iff.mpr ⟨hid, hvalid⟩,
      issuable_iff.mpr ⟨(templated_eq_iff hid).mpr hsegment, hvalid⟩⟩
  · rintro hsegments u v hu hv hne id ⟨hissued, hissued'⟩
    obtain ⟨hid, hvalid⟩ := issuable_iff.mp hissued
    obtain ⟨hid', -⟩ := issuable_iff.mp hissued'
    exact hne (hsegments u v hu hv ((templated_eq_iff hid).mp hid')
      (usable_segment_iff.mpr ⟨id, hid, hvalid⟩))

theorem toString_injective {u v : Nat} (h : toString u = toString v) : u = v := by
  have hu := Text.parseDecimal_toString u
  rw [h, Text.parseDecimal_toString] at hu
  exact (Option.some.inj hu).symm

theorem identities_distinct_iff (g : Generation) (entry : KeyEntry) :
    IdentitiesDistinct g entry ↔ TableTellsApart g.config.names.users entry := by
  rw [distinct_iff_segments]
  constructor
  · intro h
    refine ⟨?_, ?_⟩
    · intro u v name hu hv hrow hrow' husable
      have hsegment : segment g.config.names.users u = name := by simp [segment, hrow]
      have hsegment' : segment g.config.names.users v = name := by simp [segment, hrow']
      exact h u v hu hv (hsegment'.trans hsegment.symm) (by rwa [hsegment])
    · intro u v hu hv hrow hnone husable
      have hsegment : segment g.config.names.users u = toString v := by simp [segment, hrow]
      have hsegment' : segment g.config.names.users v = toString v := by simp [segment, hnone]
      exact h u v hu hv (hsegment'.trans hsegment.symm) (by rwa [hsegment])
  · rintro ⟨hnames, hnumbers⟩ u v hu hv hsegment husable
    cases hrow : g.config.names.users.get? u with
    | some name =>
      have hname : segment g.config.names.users u = name := by simp [segment, hrow]
      rw [hname] at hsegment husable
      cases hrow' : g.config.names.users.get? v with
      | some name' =>
        have hname' : segment g.config.names.users v = name' := by simp [segment, hrow']
        exact hnames u v name hu hv hrow (by rw [hrow', ← hname', hsegment]) husable
      | none =>
        have hnumber : segment g.config.names.users v = toString v := by simp [segment, hrow']
        rw [hnumber] at hsegment
        exact hnumbers u v hu hv (by rw [hrow, hsegment]) hrow' (by rwa [hsegment])
    | none =>
      have hnumber : segment g.config.names.users u = toString u := by simp [segment, hrow]
      rw [hnumber] at hsegment husable
      cases hrow' : g.config.names.users.get? v with
      | some name' =>
        have hname' : segment g.config.names.users v = name' := by simp [segment, hrow']
        exact (hnumbers v u hv hu (by rw [hrow', ← hname', hsegment]) hrow husable).symm
      | none =>
        have hnumber' : segment g.config.names.users v = toString v := by simp [segment, hrow']
        exact toString_injective (hsegment.symm.trans hnumber')

/-! ### A user named like another uid -/

def namedPolicy : RawPolicy where
  subjects := ⟨[("svc.a", ⟨.hostProcess, false, Document.uidExpr 9001⟩),
    ("svc.b", ⟨.hostProcess, false, Document.uidExpr 9002⟩)], by decide⟩
  roles := ⟨[], by decide⟩
  rules := [⟨"r1", ["svc.a", "svc.b"], ["op:mint"], ["svid.*"]⟩]
  config := ⟨⟨⟨[(9001, "9002")], by decide⟩, OrdMap.empty⟩, OrdMap.empty⟩

theorem numeric_user_name_shares_id :
    ∃ loaded, load Document.webEnv issuerCatalog namedPolicy = .ok loaded ∧
      (loaded.pdp.decide ⟨.hostProcess, "svc.a", ⟨none, some 9001, none⟩⟩ .mint
        "svid.issuer").isAllow = true ∧
      (loaded.pdp.decide ⟨.hostProcess, "svc.b", ⟨none, some 9002, none⟩⟩ .mint
        "svid.issuer").isAllow = true ∧
      requestedOrTemplatedSpiffeId ⟨1, loaded.catalog, loaded.policy, loaded.config⟩ 9001 ""
        issuerEntry = .ok "spiffe://example.org/9002" ∧
      requestedOrTemplatedSpiffeId ⟨1, loaded.catalog, loaded.policy, loaded.config⟩ 9002 ""
        issuerEntry = .ok "spiffe://example.org/9002" ∧
      ¬ IdentitiesDistinct ⟨1, loaded.catalog, loaded.policy, loaded.config⟩ issuerEntry := by
  refine ⟨_, rfl, by decide, by decide, rfl, rfl, ?_⟩
  intro hdistinct
  exact hdistinct 9001 9002 (by decide) (by decide) (by decide) "spiffe://example.org/9002"
    ⟨⟨"", rfl⟩, ⟨"", rfl⟩⟩

/-! ### Whom the Workload API methods act for

The X.509 and bundle methods resolve the caller from its whole peer record; the JWT methods keep
only its uid, so a test of the peer's group has no evidence there. -/

inductive WorkloadMethod where
  | fetchX509Svid
  | fetchX509Bundles
  | fetchJwtBundles
  | fetchJwtSvid
  | validateJwtSvid

def WorkloadMethod.actor (pdp : Pdp) (peer : PeerInfo) :
    WorkloadMethod → Except SubjectResolutionError AuthenticatedActor
  | .fetchX509Svid | .fetchX509Bundles | .fetchJwtBundles => pdp.resolveLocalActor peer
  | .fetchJwtSvid | .validateJwtSvid =>
      match peer.uid with
      | none => .error .missingPeerCredentials
      | some uid => pdp.resolveUnixActor uid

/-- What a decision reads of a resolved actor. -/
def authority (actor : Except SubjectResolutionError AuthenticatedActor) :
    Option (AuthorizationDomain × String × Option Nat) :=
  actor.toOption.map fun a => (a.domain, a.subject, a.unixUid)

section Methods

variable {pdp : Pdp} {peer : PeerInfo} {uid : Nat} {name : String}

/-- The evidence of the JWT methods: the peer's uid alone. -/
def uidSnapshot (pdp : Pdp) (uid : Nat) : EvidenceSnapshot :=
  hostProcessSnapshot pdp.config ⟨none, some uid, none⟩ uid

/-- If the whole peer record resolves, every host-process subject is decided without the gid. -/
def GroupUnneeded (pdp : Pdp) (peer : PeerInfo) : Prop :=
  ∀ uid actor, peer.uid = some uid → pdp.resolveLocalActor peer = .ok actor →
    ∀ e ∈ pdp.policy.subjects.entries, e.2.domain = .hostProcess →
      e.2.matchExpr.evaluateForResolution (uidSnapshot pdp uid) ≠ .unavailable

theorem hostActor_iff {policy : ResolvedPolicy} {config : PolicyConfig} {actor : AuthenticatedActor} :
    resolveUnixActorAs policy config peer uid = .ok actor ↔
      ∃ name, Resolves policy.subjects (hostProcessSnapshot config peer uid) name ∧
        actor = ⟨.hostProcess, name, peer⟩ := by
  rw [resolveUnixActorAs, resolveEvidenceActor]
  constructor
  · intro h
    split at h
    · cases h
    · next resolution hresolution =>
      split at h
      · cases h
      · next name hsubject =>
        cases h
        have hdomain := Option.some.inj (resolveSubject_domain hresolution)
        exact ⟨name, ⟨resolution, hresolution, hsubject⟩, by rw [← hdomain]⟩
  · rintro ⟨name, ⟨resolution, hresolution, hsubject⟩, rfl⟩
    have hdomain := Option.some.inj (resolveSubject_domain hresolution)
    rw [hresolution]
    simp only [hsubject, ← hdomain]

theorem uidSnapshot_refines : Refines (uidSnapshot pdp uid) (hostProcessSnapshot pdp.config peer uid) :=
  ⟨fun _ h => h, fun _ h => h, nofun, fun _ h => h, nofun, nofun, rfl⟩

theorem uidSnapshot_settled : SignedPathsSettled pdp.policy.subjects (uidSnapshot pdp uid) := by
  rintro _ _ - - ⟨hkey, -⟩
  cases hkey

theorem resolves_iff_without_group
    (hresolves : Resolves pdp.policy.subjects (hostProcessSnapshot pdp.config peer uid) name) :
    Resolves pdp.policy.subjects (uidSnapshot pdp uid) name ↔
      subjectsInState pdp.policy.subjects (uidSnapshot pdp uid) .hostProcess .unavailable = [] := by
  constructor
  · intro h
    obtain ⟨_, hdomain, -, hopen⟩ := resolves_iff.mp h
    cases hdomain
    exact hopen
  · intro hopen
    obtain ⟨_, hdomain, hmatch, -⟩ := resolves_iff.mp hresolves
    cases hdomain
    have hsame := subjectsInState_refines (@uidSnapshot_refines pdp peer uid) rfl hopen
      uidSnapshot_settled
    exact resolves_iff.mpr ⟨.hostProcess, rfl, by rw [← hsame, hmatch], hopen⟩

theorem methods_alike_iff_jwt :
    (∀ method other : WorkloadMethod,
      authority (method.actor pdp peer) = authority (other.actor pdp peer)) ↔
      authority (WorkloadMethod.fetchJwtSvid.actor pdp peer) =
        authority (WorkloadMethod.fetchX509Svid.actor pdp peer) := by
  constructor
  · intro h
    exact h .fetchJwtSvid .fetchX509Svid
  · intro h method other
    cases method <;> cases other <;> first | rfl | exact h | exact h.symm

theorem authority_eq_some {policy : ResolvedPolicy} {config : PolicyConfig}
    {a : AuthorizationDomain × String × Option Nat} :
    authority (resolveUnixActorAs policy config peer uid) = some a ↔
      ∃ name, Resolves policy.subjects (hostProcessSnapshot config peer uid) name ∧
        (.hostProcess, name, peer.uid) = a := by
  constructor
  · intro h
    cases hactor : resolveUnixActorAs policy config peer uid with
    | error e =>
      rw [hactor] at h
      cases h
    | ok actor =>
      obtain ⟨name, hresolves, rfl⟩ := hostActor_iff.mp hactor
      rw [hactor] at h
      exact ⟨name, hresolves, Option.some.inj h⟩
  · rintro ⟨name, hresolves, rfl⟩
    rw [hostActor_iff.mpr ⟨name, hresolves, rfl⟩]
    rfl

theorem methods_act_alike (pdp : Pdp) (peer : PeerInfo) :
    (∀ method other : WorkloadMethod,
      authority (method.actor pdp peer) = authority (other.actor pdp peer)) ↔
      GroupUnneeded pdp peer := by
  rw [methods_alike_iff_jwt]
  simp only [WorkloadMethod.actor, GroupUnneeded, Pdp.resolveLocalActor, resolveLocalActor,
    Pdp.resolveUnixActor, resolveUnixActor, PeerInfo.default]
  cases huid : peer.uid with
  | none => simp
  | some uid =>
    constructor
    · rintro halike _ actor ⟨⟩ hactor e he hdomain hunavailable
      obtain ⟨name, hresolves, rfl⟩ := hostActor_iff.mp hactor
      obtain ⟨_, hbare, hsame⟩ := authority_eq_some.mp
        (halike.trans (authority_eq_some.mpr ⟨name, hresolves, rfl⟩))
      obtain rfl : _ = name := congrArg (fun a => a.2.1) hsame
      have hopen := (resolves_iff_without_group hresolves).mp hbare
      have hmem := mem_subjectsInState.mpr ⟨e.2, he, hdomain, hunavailable⟩
      rw [hopen] at hmem
      cases hmem
    · intro hcondition
      refine Option.ext fun a => ?_
      refine authority_eq_some.trans (.trans ?_ authority_eq_some.symm)
      rw [huid]
      refine exists_congr fun name => and_congr_left' ?_
      constructor
      · intro hbare
        exact resolves_of_settled hbare uidSnapshot_settled uidSnapshot_refines
      · intro hresolves
        refine (resolves_iff_without_group hresolves).mpr (List.eq_nil_iff_forall_not_mem.mpr ?_)
        intro other hmem
        obtain ⟨definition, hentry, hdomain, hunavailable⟩ := mem_subjectsInState.mp hmem
        exact hcondition uid _ rfl (hostActor_iff.mpr ⟨name, hresolves, rfl⟩) _ hentry hdomain hunavailable

end Methods

def groupPolicy (test : String) : RawPolicy where
  subjects := ⟨[("svc.a", ⟨.hostProcess, false, .obj [("all", .arr [.obj [(test, .num 100)]])]⟩)],
    List.pairwise_singleton _ _⟩
  roles := ⟨[], by decide⟩
  rules := []
  config := ⟨⟨OrdMap.empty, OrdMap.empty⟩, OrdMap.empty⟩

theorem jwt_methods_lose_group :
    ∃ loaded, load Document.webEnv issuerCatalog (groupPolicy "process.gid") = .ok loaded ∧
      authority (WorkloadMethod.fetchX509Svid.actor loaded.pdp ⟨none, some 9, some 100⟩) =
        some (.hostProcess, "svc.a", some 9) ∧
      authority (WorkloadMethod.fetchJwtSvid.actor loaded.pdp ⟨none, some 9, some 100⟩) = none :=
  ⟨_, rfl, rfl, rfl⟩

end Basil.SpiffeIdentity
