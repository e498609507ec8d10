import Basil.PolicyDocument
import Mathlib.Data.List.Sort

/-!
# Offline views of the policy (`core/catalog/pdp.rs`)

`explain` runs the enforcement matcher and keeps the rule it found; `explain_subject` does so for
a subject name, and `effective` lists what a subject is granted over the whole catalog.
-/

namespace Basil

open Evidence Loader

structure EffectiveGrant where
  key : String
  op : Op
  via : AllowVia
  ruleId : Option String
  deriving DecidableEq

def EffectiveGrant.before (a b : EffectiveGrant) : Prop :=
  a.key < b.key ∨ (a.key = b.key ∧ a.op.token ≤ b.op.token)

instance : DecidableRel EffectiveGrant.before := fun a b =>
  inferInstanceAs (Decidable (a.key < b.key ∨ (a.key = b.key ∧ a.op.token ≤ b.op.token)))

namespace Pdp

variable (pdp : Pdp)

def explain (actor : AuthenticatedActor) (op : Op) (key : String) : Explanation :=
  pdp.evaluate actor op key

/-- The second copy of the checks, for a name that is not in the registry. -/
def evaluateWithoutActor (op : Op) (key : String) : Explanation :=
  match pdp.catalog.keys.get? key with
  | none => .deny .unknownKey
  | some entry =>
      if entry.nixCache.any fun identity => !nixCacheOpAllowed identity.state op then
        .deny .nixCachePurposeBound
      else if op.isWrite && !entry.writable then .deny .notWritable
      else if op = .sign ∧ entry.isCredentialIssuer then .deny .issuerRawSign
      else .deny .notPermitted

def resolveSubjectActor (subject : String) : Option AuthenticatedActor :=
  (pdp.policy.subjects.get? subject).map fun definition => ⟨definition.domain, subject, PeerInfo.default⟩

def explainSubject (subject : String) (op : Op) (key : String) : Explanation :=
  match pdp.resolveSubjectActor subject with
  | none => pdp.evaluateWithoutActor op key
  | some actor => pdp.evaluate actor op key

def effectiveGrant (actor : AuthenticatedActor) (key : String) (op : Op) : Option EffectiveGrant :=
  match pdp.explain actor op key with
  | ⟨.allow via, matched⟩ => some ⟨key, op, via, matched.map (·.ruleId)⟩
  | ⟨.deny _, _⟩ => none

def effective (subject : String) : List EffectiveGrant :=
  match pdp.resolveSubjectActor subject with
  | none => []
  | some actor =>
      (pdp.catalog.keys.entries.flatMap fun e =>
        allOps.filterMap (pdp.effectiveGrant actor e.1)).insertionSort EffectiveGrant.before

/-! ### What the views say -/

variable {pdp}

variable {actor : AuthenticatedActor} {key : String} {op : Op}

theorem evaluateWithoutActor_eq (h : pdp.policy.subjects.get? actor.subject = none) (op : Op)
    (key : String) : pdp.evaluateWithoutActor op key = pdp.evaluate actor op key := by
  have hregistered : pdp.actorIsRegistered actor = false := by simp [actorIsRegistered, h]
  unfold evaluateWithoutActor evaluate
  rw [hregistered]
  rfl

theorem effectiveGrant_eq_some :
    (∃ g, pdp.effectiveGrant actor key op = some g) ↔ (pdp.decide actor op key).isAllow = true := by
  unfold effectiveGrant explain decide
  rcases pdp.evaluate actor op key with ⟨_ | _, _⟩
  · simp [Decision.isAllow]
  · simp [Decision.isAllow]

theorem effectiveGrant_fields {g : EffectiveGrant} (h : pdp.effectiveGrant actor key op = some g) :
    g.key = key ∧ g.op = op := by
  unfold effectiveGrant at h
  split at h
  · cases h
    exact ⟨rfl, rfl⟩
  · cases h

theorem decide_key (h : (pdp.decide actor op key).isAllow = true) :
    ∃ entry, (key, entry) ∈ pdp.catalog.keys.entries := by
  obtain ⟨entry, hentry, -⟩ := decide_isAllow.mp h
  exact ⟨entry, OrdMap.get?_eq_some_iff.mp hentry⟩

theorem mem_effective {subject : String} (hactor : pdp.resolveSubjectActor subject = some actor) :
    (∃ g ∈ pdp.effective subject, g.key = key ∧ g.op = op) ↔
      op ∈ allOps ∧ (pdp.decide actor op key).isAllow = true := by
  unfold effective
  rw [hactor]
  simp only [List.mem_insertionSort, List.mem_flatMap, List.mem_filterMap]
  constructor
  · rintro ⟨g, ⟨⟨_, entry⟩, -, _, hop, hg⟩, rfl, rfl⟩
    obtain ⟨rfl, rfl⟩ := effectiveGrant_fields hg
    exact ⟨hop, effectiveGrant_eq_some.mp ⟨g, hg⟩⟩
  · rintro ⟨hop, hallow⟩
    obtain ⟨g, hg⟩ := effectiveGrant_eq_some.mpr hallow
    obtain ⟨entry, hentry⟩ := decide_key hallow
    exact ⟨g, ⟨(key, entry), hentry, op, hop, hg⟩, effectiveGrant_fields hg⟩

end Pdp

namespace Inspection

open Document

def KeyScoped (op : Op) : Prop := Pdp.adminTarget op = none

/-- The views say of the name what enforcement does with it. -/
def Agrees (pdp : Pdp) (subject : String) : Prop :=
  match pdp.policy.subjects.get? subject with
  | some definition =>
      ∀ actor : AuthenticatedActor, actor.subject = subject → actor.domain = definition.domain →
        ∀ key op, KeyScoped op → ((∃ g ∈ pdp.effective subject, g.key = key ∧ g.op = op) ↔
          (pdp.decide actor op key).isAllow = true)
  | none =>
      pdp.effective subject = [] ∧
        ∀ actor : AuthenticatedActor, pdp.policy.subjects.get? actor.subject = none → ∀ op key,
          (pdp.explainSubject subject op key).decision = pdp.decide actor op key

def NoUnlistedGrant (catalog : Catalog) (raw : RawPolicy) (subject : String) : Prop :=
  ∀ op ∈ [Op.enrollNixCacheKey, .signNixCacheFingerprint, .useSoftwareCustody], ∀ key entry,
    catalog.keys.get? key = some entry →
    (∀ identity, entry.nixCache = some identity → nixCacheOpAllowed identity.state op = true) →
    (op.isWrite = true → entry.writable = true) →
    ¬ RuleWith raw (TermNames raw.roles op) subject key

theorem unlisted_iff {op : Op} :
    (KeyScoped op ∧ op ∉ allOps) ↔
      op ∈ [Op.enrollNixCacheKey, .signNixCacheFingerprint, .useSoftwareCustody] := by
  unfold KeyScoped
  cases op <;> decide

variable {env : LoadEnv} {catalog : Catalog} {raw : RawPolicy} {loaded : Loaded}

theorem decide_unlisted_iff (h : load env catalog raw = .ok loaded) {actor : AuthenticatedActor} {op : Op}
    (hop : op ∈ [Op.enrollNixCacheKey, .signNixCacheFingerprint, .useSoftwareCustody]) (key : String) :
    (loaded.pdp.decide actor op key).isAllow = true ↔
      Registered loaded.policy.subjects actor ∧ ∃ entry, catalog.keys.get? key = some entry ∧
        (∀ identity, entry.nixCache = some identity → nixCacheOpAllowed identity.state op = true) ∧
        (op.isWrite = true → entry.writable = true) ∧
        RuleWith raw (TermNames raw.roles op) actor.subject key := by
  have hwildcard : op ∉ allOps := (unlisted_iff.mpr hop).2
  have hsign : op ≠ .sign := by
    rintro rfl
    exact absurd hop (by decide)
  have hpublic : ¬ (op = .get ∨ op = .getPublicKey) := by
    rintro (rfl | rfl)
    · exact absurd hop (by decide)
    · exact absurd hop (by decide)
  rw [decide_iff h, Permits]
  simp only [grants_not_wildcard hwildcard, hsign, hpublic, and_false, false_and, not_false_eq_true,
    or_false, true_and]
  constructor
  · rintro ⟨entry, hentry, hnix, hwrite, hregistered, hrule⟩
    exact ⟨hregistered, entry, hentry, hnix, hwrite, hrule⟩
  · rintro ⟨hregistered, entry, hentry, hnix, hwrite, hrule⟩
    exact ⟨entry, hentry, hnix, hwrite, hregistered, hrule⟩

theorem views_agree_iff (h : load env catalog raw = .ok loaded) (subject : String) :
    Agrees loaded.pdp subject ↔ NoUnlistedGrant catalog raw subject := by
  unfold Agrees
  cases hsubject : loaded.pdp.policy.subjects.get? subject with
  | none =>
    refine iff_of_true ⟨?_, ?_⟩ ?_
    · simp [Pdp.effective, Pdp.resolveSubjectActor, hsubject]
    · intro actor hactor op key
      simp only [Pdp.explainSubject, Pdp.resolveSubjectActor, hsubject, Option.map_none]
      rw [Pdp.evaluateWithoutActor_eq hactor, ← Pdp.decide]
    · intro op _ key entry _ _ _ hrule
      obtain ⟨definition, hdefinition⟩ := ruleWith_registered h hrule
      have hnone : loaded.policy.subjects.get? subject = none := hsubject
      rw [hnone] at hdefinition
      cases hdefinition
  | some definition =>
    have hresolve : loaded.pdp.resolveSubjectActor subject =
        some ⟨definition.domain, subject, PeerInfo.default⟩ := by
      simp [Pdp.resolveSubjectActor, hsubject]
    simp only [Pdp.mem_effective hresolve]
    constructor
    · intro hagrees op hop key entry hentry hnix hwrite hrule
      obtain ⟨hscoped, hwildcard⟩ := unlisted_iff.mpr hop
      have hallow : (loaded.pdp.decide ⟨definition.domain, subject, PeerInfo.default⟩ op key).isAllow = true :=
        (decide_unlisted_iff h hop key).mpr ⟨⟨definition, hsubject, rfl⟩, entry, hentry, hnix, hwrite, hrule⟩
      exact hwildcard ((hagrees _ rfl rfl key op hscoped).mpr hallow).1
    · intro hnone actor hname hdomain key op hscoped
      have hsame : loaded.pdp.decide actor op key =
          loaded.pdp.decide ⟨definition.domain, subject, PeerInfo.default⟩ op key := by
        unfold Pdp.decide Pdp.evaluate Pdp.actorIsRegistered
        rw [hname, hdomain]
      rw [hsame]
      refine ⟨And.right, fun hallow => ⟨?_, hallow⟩⟩
      by_contra hwildcard
      have hop := unlisted_iff.mp ⟨hscoped, hwildcard⟩
      obtain ⟨-, entry, hentry, hnix, hwrite, hrule⟩ := (decide_unlisted_iff h hop key).mp hallow
      exact hnone op hop key entry hentry hnix hwrite hrule

theorem web_noUnlistedGrant : NoUnlistedGrant webCatalog webPolicy "svc.web" := by
  rintro op hop _ _ - - - ⟨_, hrule, hsubject, ⟨term, hterm, hnames⟩, -⟩
  rcases List.mem_cons.mp hrule with rfl | hrule
  · simp only [List.mem_cons, List.not_mem_nil, or_false] at hterm hop
    have hcovers : TermCovers webPolicy.roles op term := .inl hnames
    rcases hterm with rfl | rfl
    · have hrole : TermCovers webPolicy.roles op ("role:" ++ "reader") := hcovers
      obtain ⟨_, hops, hmem⟩ := termCovers_role.mp hrole
      cases hops
      rcases hop with rfl | rfl | rfl <;> exact absurd hmem (by decide)
    · have hop' := hcovers
      have hsign : Op.sign = op := termCovers_op.mp hop'
      rcases hop with rfl | rfl | rfl <;> cases hsign
  · cases List.mem_singleton.mp hrule
    exact absurd hsubject (by decide)

theorem views_agree_web :
    ∃ loaded, load webEnv webCatalog webPolicy = .ok loaded ∧ Agrees loaded.pdp "svc.web" := by
  obtain ⟨loaded, hload⟩ : ∃ loaded, load webEnv webCatalog webPolicy = .ok loaded := ⟨_, rfl⟩
  exact ⟨loaded, hload, (views_agree_iff hload "svc.web").mpr web_noUnlistedGrant⟩

def custodyPolicy : RawPolicy :=
  { webPolicy with rules := [⟨"r1", ["svc.web"], ["op:use_software_custody"], ["web.signer"]⟩] }

theorem custody_grant_not_effective :
    ∃ loaded, load webEnv webCatalog custodyPolicy = .ok loaded ∧
      (loaded.pdp.decide webActor .useSoftwareCustody "web.signer").isAllow = true ∧
      (∀ g ∈ loaded.pdp.effective "svc.web", ¬ (g.key = "web.signer" ∧ g.op = .useSoftwareCustody)) ∧
      ¬ Agrees loaded.pdp "svc.web" := by
  obtain ⟨loaded, hload, hallow, definition, hsubject, hdomain⟩ :
      ∃ loaded, load webEnv webCatalog custodyPolicy = .ok loaded ∧
        (loaded.pdp.decide webActor .useSoftwareCustody "web.signer").isAllow = true ∧
        ∃ definition, loaded.pdp.policy.subjects.get? "svc.web" = some definition ∧
          definition.domain = .hostProcess := ⟨_, rfl, by decide, _, rfl, rfl⟩
  have hresolve : loaded.pdp.resolveSubjectActor "svc.web" =
      some ⟨definition.domain, "svc.web", PeerInfo.default⟩ := by
    simp [Pdp.resolveSubjectActor, hsubject]
  have hhidden : ¬ ∃ g ∈ loaded.pdp.effective "svc.web",
      g.key = "web.signer" ∧ g.op = .useSoftwareCustody := by
    rw [Pdp.mem_effective hresolve]
    rintro ⟨hop, -⟩
    exact absurd hop (by decide)
  refine ⟨loaded, hload, hallow, fun g hg hfields => hhidden ⟨g, hg, hfields⟩, ?_⟩
  intro hagrees
  simp only [Agrees, hsubject] at hagrees
  exact hhidden ((hagrees webActor rfl hdomain.symm "web.signer" .useSoftwareCustody rfl).mpr hallow)

end Inspection

end Basil
