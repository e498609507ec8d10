import Basil.Lib.OrdMap
import Mathlib.Data.String.Basic

/-!
# Authorization evidence (`core/catalog/evidence.rs`)

Three-valued evaluation of a subject's match expression against one snapshot of trusted evidence,
and the selection of the one subject that matches.
-/

namespace Basil.Evidence

def maxReportedSubjects : Nat := 8

inductive AuthorizationDomain where
  | hostProcess
  | systemdUnit
  deriving DecidableEq

inductive SignatureKeyAlgorithm where
  | ed25519
  | natsNkey
  deriving DecidableEq

inductive IdentitySelector where
  | numeric (id : Nat)
  | localName (name : String) (id : Nat)
  deriving DecidableEq

def IdentitySelector.id : IdentitySelector → Nat
  | numeric id => id
  | localName _ id => id

structure SystemdSelector where
  name : String
  managerUser : Option IdentitySelector
  deriving DecidableEq

inductive CredentialSlot where
  | real
  | effective
  | saved
  | filesystem
  deriving DecidableEq

inductive EvidencePredicate where
  | processUid (selector : IdentitySelector)
  | processUidSlot (slot : CredentialSlot) (selector : IdentitySelector)
  | processGid (selector : IdentitySelector)
  | processGidSlot (slot : CredentialSlot) (selector : IdentitySelector)
  | processGidSupplementary (selector : IdentitySelector)
  | processExecutableDigest (expected : String)
  | systemdUnit (selector : SystemdSelector)
  | systemdTemplate (selector : SystemdSelector)
  | invocationSignatureKey (algorithm : SignatureKeyAlgorithm) (publicKey : String)
  deriving DecidableEq

inductive EvidenceExpression where
  | all (children : List EvidenceExpression)
  | any (children : List EvidenceExpression)
  | leaf (predicate : EvidencePredicate)

mutual
def EvidenceExpression.depth : EvidenceExpression → Nat
  | .leaf _ => 0
  | .all children => 1 + maxDepth children
  | .any children => 1 + maxDepth children

def maxDepth : List EvidenceExpression → Nat
  | [] => 0
  | child :: rest => max child.depth (maxDepth rest)
end

mutual
def EvidenceExpression.leafCount : EvidenceExpression → Nat
  | .leaf _ => 1
  | .all children => totalLeaves children
  | .any children => totalLeaves children

def totalLeaves : List EvidenceExpression → Nat
  | [] => 0
  | child :: rest => child.leafCount + totalLeaves rest
end

/-- `EvidenceState`: a predicate over missing evidence is neither true nor false. -/
inductive EvidenceState where
  | isMatch
  | noMatch
  | unavailable
  deriving DecidableEq

structure CredentialSlots where
  real : Nat
  effective : Nat
  saved : Nat
  filesystem : Nat
  deriving DecidableEq

namespace CredentialSlots

def uniform (id : Nat) : CredentialSlots := ⟨id, id, id, id⟩

def slot (c : CredentialSlots) : CredentialSlot → Nat
  | .real => c.real
  | .effective => c.effective
  | .saved => c.saved
  | .filesystem => c.filesystem

def allEqual (c : CredentialSlots) (expected : Nat) : Bool :=
  c.real == expected && c.effective == expected && c.saved == expected && c.filesystem == expected

end CredentialSlots

structure SystemdEvidence where
  unit : String
  template : Option String
  managerUser : Option Nat
  deriving DecidableEq

structure SignatureKeyEvidence where
  algorithm : SignatureKeyAlgorithm
  publicKey : String
  deriving DecidableEq

structure ProcessEvidence where
  uids : Option CredentialSlots
  gids : Option CredentialSlots
  supplementaryGids : Option (List Nat)
  executableDigest : Option String

structure EvidenceSnapshot where
  domain : Option AuthorizationDomain
  process : ProcessEvidence
  systemd : Option SystemdEvidence
  invocationSignatureKey : Option SignatureKeyEvidence

/-! ### Predicates -/

def stateOf {α : Type} (value : Option α) (test : α → Bool) : EvidenceState :=
  match value with
  | none => .unavailable
  | some actual => if test actual then .isMatch else .noMatch

def compareSlots (evidence : Option CredentialSlots) (expected : Nat)
    (slot : Option CredentialSlot) : EvidenceState :=
  stateOf evidence fun actual =>
    match slot with
    | none => actual.allEqual expected
    | some slot => actual.slot slot == expected

def compareMembership (evidence : Option (List Nat)) (expected : Nat) : EvidenceState :=
  stateOf evidence fun actual => actual.contains expected

def compareSystemd (evidence : Option SystemdEvidence) (name : String) (managerUser : Option Nat)
    (template : Bool) : EvidenceState :=
  stateOf evidence fun actual =>
    (if template then actual.template else some actual.unit) == some name &&
      actual.managerUser == managerUser

def EvidenceSnapshot.evaluate (evidence : EvidenceSnapshot) : EvidencePredicate → EvidenceState
  | .processUid selector => compareSlots evidence.process.uids selector.id none
  | .processUidSlot slot selector => compareSlots evidence.process.uids selector.id (some slot)
  | .processGid selector => compareSlots evidence.process.gids selector.id none
  | .processGidSlot slot selector => compareSlots evidence.process.gids selector.id (some slot)
  | .processGidSupplementary selector =>
      compareMembership evidence.process.supplementaryGids selector.id
  | .processExecutableDigest expected =>
      stateOf evidence.process.executableDigest fun actual => actual == expected
  | .systemdUnit expected =>
      compareSystemd evidence.systemd expected.name (expected.managerUser.map (·.id)) false
  | .systemdTemplate expected =>
      compareSystemd evidence.systemd expected.name (expected.managerUser.map (·.id)) true
  | .invocationSignatureKey algorithm publicKey =>
      stateOf evidence.invocationSignatureKey fun actual => actual == ⟨algorithm, publicKey⟩

/-! ### Expressions -/

/-- The loop over the children of `All`, from the state and signature flag so far. -/
def foldAll : List (EvidenceState × Bool) → EvidenceState → Bool → EvidenceState × Bool
  | [], state, bound => (state, state == .isMatch && bound)
  | (childState, childBound) :: rest, state, bound =>
      let bound := bound || (childState == .isMatch && childBound)
      match childState with
      | .noMatch => (.noMatch, false)
      | .unavailable => foldAll rest .unavailable bound
      | .isMatch => foldAll rest state bound

def foldAny : List (EvidenceState × Bool) → Bool → Bool → Bool → EvidenceState × Bool
  | [], sawMatch, sawUnavailable, bound =>
      if sawMatch then (.isMatch, bound)
      else if sawUnavailable then (.unavailable, false)
      else (.noMatch, false)
  | (childState, childBound) :: rest, sawMatch, sawUnavailable, bound =>
      match childState with
      | .isMatch => foldAny rest true sawUnavailable (bound || childBound)
      | .unavailable => foldAny rest sawMatch true bound
      | .noMatch => foldAny rest sawMatch sawUnavailable bound

def isSignatureKeyPredicate : EvidencePredicate → Bool
  | .invocationSignatureKey _ _ => true
  | _ => false

mutual
def EvidenceExpression.evaluateWithSignaturePath (evidence : EvidenceSnapshot) :
    EvidenceExpression → EvidenceState × Bool
  | .leaf predicate => (evidence.evaluate predicate, isSignatureKeyPredicate predicate)
  | .all children => foldAll (evaluateChildren evidence children) .isMatch false
  | .any children => foldAny (evaluateChildren evidence children) false false false

def evaluateChildren (evidence : EvidenceSnapshot) :
    List EvidenceExpression → List (EvidenceState × Bool)
  | [] => []
  | child :: rest => child.evaluateWithSignaturePath evidence :: evaluateChildren evidence rest
end

mutual
def EvidenceExpression.evaluate (evidence : EvidenceSnapshot) : EvidenceExpression → EvidenceState
  | .leaf predicate => evidence.evaluate predicate
  | .all children => evaluateAll evidence false children
  | .any children => evaluateAny evidence false children

def evaluateAll (evidence : EvidenceSnapshot) (sawUnavailable : Bool) :
    List EvidenceExpression → EvidenceState
  | [] => if sawUnavailable then .unavailable else .isMatch
  | child :: rest =>
      match child.evaluate evidence with
      | .noMatch => .noMatch
      | .unavailable => evaluateAll evidence true rest
      | .isMatch => evaluateAll evidence sawUnavailable rest

def evaluateAny (evidence : EvidenceSnapshot) (sawUnavailable : Bool) :
    List EvidenceExpression → EvidenceState
  | [] => if sawUnavailable then .unavailable else .noMatch
  | child :: rest =>
      match child.evaluate evidence with
      | .isMatch => .isMatch
      | .unavailable => evaluateAny evidence true rest
      | .noMatch => evaluateAny evidence sawUnavailable rest
end

def EvidenceExpression.evaluateForResolution (e : EvidenceExpression)
    (evidence : EvidenceSnapshot) : EvidenceState :=
  let (state, signatureBound) := e.evaluateWithSignaturePath evidence
  if evidence.invocationSignatureKey.isSome && state == .isMatch && !signatureBound then .noMatch
  else state

/-! ### Subject resolution -/

structure SubjectDefinition where
  domain : AuthorizationDomain
  breakGlass : Bool
  matchExpr : EvidenceExpression

structure SubjectResolution where
  domain : AuthorizationDomain
  subject : Option String
  matchingSubjects : List String
  matchingCount : Nat
  noMatchCount : Nat
  unavailableCount : Nat
  matchingSubjectsTruncated : Bool

inductive EvidenceResolutionError where
  | domainUnavailable
  | noSubject (resolution : SubjectResolution)
  | ambiguousSubject (resolution : SubjectResolution)
  | evidenceUnavailable (resolution : SubjectResolution)

def subjectsInState (subjects : OrdMap String SubjectDefinition) (evidence : EvidenceSnapshot)
    (domain : AuthorizationDomain) (state : EvidenceState) : List String :=
  (subjects.entries.filter fun e =>
    e.2.domain == domain && e.2.matchExpr.evaluateForResolution evidence == state).map Prod.fst

def resolveSubject (subjects : OrdMap String SubjectDefinition) (evidence : EvidenceSnapshot) :
    Except EvidenceResolutionError SubjectResolution :=
  match evidence.domain with
  | none => .error .domainUnavailable
  | some domain =>
      let matching := subjectsInState subjects evidence domain .isMatch
      let noMatchCount := (subjectsInState subjects evidence domain .noMatch).length
      let unavailableCount := (subjectsInState subjects evidence domain .unavailable).length
      let reported := matching.take maxReportedSubjects
      let resolution : SubjectResolution :=
        { domain
          subject := if matching.length = 1 ∧ unavailableCount = 0 then reported.head? else none
          matchingSubjects := reported
          matchingCount := matching.length
          noMatchCount
          unavailableCount
          matchingSubjectsTruncated := maxReportedSubjects < matching.length }
      if 1 < matching.length then .error (.ambiguousSubject resolution)
      else if 0 < unavailableCount then .error (.evidenceUnavailable resolution)
      else if matching.length = 0 then .error (.noSubject resolution)
      else .ok resolution

end Basil.Evidence
