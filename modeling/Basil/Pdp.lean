import Basil.Policy
import Basil.Schema

/-!
# The policy decision point (`core/catalog/pdp.rs`)
-/

namespace Basil

open Evidence

inductive AllowVia where
  | subject (name : String)
  | publicClass
  deriving DecidableEq

inductive DenyReason where
  | unknownKey
  | nixCachePurposeBound
  | notWritable
  | issuerRawSign
  | notPermitted
  deriving DecidableEq

inductive Decision where
  | allow (via : AllowVia)
  | deny (reason : DenyReason)
  deriving DecidableEq

def Decision.isAllow : Decision → Bool
  | allow _ => true
  | deny _ => false

structure MatchedRule where
  ruleId : String
  via : AllowVia
  subject : String
  action : String
  target : String
  deriving DecidableEq

structure Explanation where
  decision : Decision
  matched : Option MatchedRule
  deriving DecidableEq

namespace Explanation

def deny (reason : DenyReason) : Explanation := ⟨.deny reason, none⟩

def allow (subject : String) (grant : Grant) : Explanation :=
  ⟨.allow (.subject subject),
    some ⟨grant.ruleId, .subject subject, subject, grant.action, grant.target.source⟩⟩

@[simp] theorem decision_deny (reason : DenyReason) : (deny reason).decision = .deny reason := rfl

@[simp] theorem decision_allow (subject : String) (grant : Grant) :
    (allow subject grant).decision = .allow (.subject subject) := rfl

end Explanation

structure Pdp where
  catalog : Catalog
  policy : ResolvedPolicy
  config : PolicyConfig

def nixCacheOpAllowed : NixCacheState → Op → Bool
  | .pending, .enrollNixCacheKey => true
  | .enrolled, .enrollNixCacheKey => true
  | .enrolled, .signNixCacheFingerprint => true
  | _, _ => false

def isPublicRead : Op → Bool
  | .get | .getPublicKey => true
  | _ => false

namespace Pdp

def actorIsRegistered (pdp : Pdp) (actor : AuthenticatedActor) : Bool :=
  (pdp.policy.subjects.get? actor.subject).any fun definition => definition.domain == actor.domain

/-- The first grant of the first rule that names the actor's subject and matches. -/
def findGrant (rules : List ResolvedRule) (subject : String) (op : Op) (key : String) :
    Option Grant :=
  rules.findSome? fun rule =>
    if rule.subjects.contains subject then
      rule.grants.find? fun g => g.op == op && g.target.matchesKey key
    else none

/-- The one matcher behind `decide` and `explain`. -/
def evaluate (pdp : Pdp) (actor : AuthenticatedActor) (op : Op) (key : String) : Explanation :=
  match pdp.catalog.keys.get? key with
  | none => .deny .unknownKey
  | some entry =>
      if entry.nixCache.any fun identity => !nixCacheOpAllowed identity.state op then
        .deny .nixCachePurposeBound
      else if op.isWrite && !entry.writable then .deny .notWritable
      else if op = .sign ∧ entry.isCredentialIssuer then .deny .issuerRawSign
      else if !pdp.actorIsRegistered actor then .deny .notPermitted
      else
        match findGrant pdp.policy.rules actor.subject op key with
        | some grant => .allow actor.subject grant
        | none =>
            if entry.keyClass = .publicKey ∧ isPublicRead op then ⟨.allow .publicClass, none⟩
            else .deny .notPermitted

def decide (pdp : Pdp) (actor : AuthenticatedActor) (op : Op) (key : String) : Decision :=
  (pdp.evaluate actor op key).decision

def allows (pdp : Pdp) (actor : AuthenticatedActor) (op : Op) (key : String) : Bool :=
  (pdp.decide actor op key).isAllow

def adminTarget : Op → Option String
  | .reload => some "broker.reload"
  | .explain => some "broker.explain"
  | .revoke => some "broker.revoke"
  | .watch => some "broker.watch"
  | .connectionStatus => some "broker.connections"
  | .connectionDrop => some "broker.connections.drop"
  | _ => none

/-- `decide_admin`: grant matching on the reserved target, with no key behind it. -/
def decideAdmin (pdp : Pdp) (actor : AuthenticatedActor) (op : Op) : Decision :=
  match adminTarget op with
  | none => .deny .notPermitted
  | some target =>
      if !pdp.actorIsRegistered actor then .deny .notPermitted
      else if (findGrant pdp.policy.rules actor.subject op target).isSome then
        .allow (.subject actor.subject)
      else .deny .notPermitted

def resolveLocalActor (pdp : Pdp) (peer : PeerInfo) :
    Except SubjectResolutionError AuthenticatedActor :=
  Basil.resolveLocalActor pdp.policy pdp.config peer

def resolveUnixActor (pdp : Pdp) (uid : Nat) : Except SubjectResolutionError AuthenticatedActor :=
  Basil.resolveUnixActor pdp.policy pdp.config uid

/-! ### What an allow says -/

theorem findGrant_isSome {rules : List ResolvedRule} {subject key : String} {op : Op} :
    (findGrant rules subject op key).isSome = true ↔
      ∃ rule ∈ rules, subject ∈ rule.subjects ∧
        ∃ g ∈ rule.grants, g.op = op ∧ g.target.matchesKey key = true := by
  unfold findGrant
  rw [List.isSome_findSome?, List.any_eq_true]
  constructor
  · rintro ⟨rule, hrule, hsome⟩
    split at hsome
    · next hsubject =>
      rw [List.find?_isSome] at hsome
      obtain ⟨g, hg, hmatch⟩ := hsome
      simp only [Bool.and_eq_true, beq_iff_eq] at hmatch
      exact ⟨rule, hrule, List.contains_iff_mem.mp hsubject, g, hg, hmatch⟩
    · cases hsome
  · rintro ⟨rule, hrule, hsubject, g, hg, hop, hmatch⟩
    refine ⟨rule, hrule, ?_⟩
    rw [if_pos (List.contains_iff_mem.mpr hsubject), List.find?_isSome]
    exact ⟨g, hg, by simp [hop, hmatch]⟩

theorem decide_isAllow {pdp : Pdp} {actor : AuthenticatedActor} {op : Op} {key : String} :
    (pdp.decide actor op key).isAllow = true ↔
      ∃ entry, pdp.catalog.keys.get? key = some entry ∧
        (∀ identity, entry.nixCache = some identity → nixCacheOpAllowed identity.state op = true) ∧
        (op.isWrite = true → entry.writable = true) ∧
        ¬ (op = .sign ∧ entry.isCredentialIssuer = true) ∧
        pdp.actorIsRegistered actor = true ∧
        ((findGrant pdp.policy.rules actor.subject op key).isSome = true ∨
          (entry.keyClass = .publicKey ∧ (op = .get ∨ op = .getPublicKey))) := by
  unfold decide evaluate
  cases hentry : pdp.catalog.keys.get? key with
  | none => simp [Decision.isAllow]
  | some entry =>
    have hnix : (entry.nixCache.any fun identity => !nixCacheOpAllowed identity.state op) = false ↔
        ∀ identity, entry.nixCache = some identity → nixCacheOpAllowed identity.state op = true := by
      cases entry.nixCache <;> simp
    have hread : isPublicRead op = true ↔ op = .get ∨ op = .getPublicKey := by
      cases op <;> simp [isPublicRead]
    simp only [Option.some.injEq, exists_eq_left', ← hnix, ← hread]
    -- every check but the last denies when it fires
    split
    · simp_all [Decision.isAllow]
    · split
      · simp_all [Decision.isAllow]
      · split
        · simp_all [Decision.isAllow]
        · split
          · simp_all [Decision.isAllow]
          · cases findGrant pdp.policy.rules actor.subject op key with
            | some g => simp_all [Decision.isAllow]
            | none =>
              by_cases hpublic : entry.keyClass = .publicKey ∧ isPublicRead op = true
              · simp only [if_pos hpublic]
                simp_all [Decision.isAllow]
              · simp only [if_neg hpublic]
                simp_all [Decision.isAllow]

end Pdp

end Basil
