import Basil.Evidence
import Basil.Glob

/-!
# Operations, resolved policy and actors (`core/catalog/policy.rs`, `core/actor.rs`)
-/

namespace Basil

open Evidence

inductive Op where
  | get
  | list
  | getPublicKey
  | verify
  | sign
  | encrypt
  | decrypt
  | mint
  | signNatsJwt
  | validateNatsJwt
  | encryptNatsCurve
  | decryptNatsCurve
  | validate
  | set
  | rotate
  | importKey
  | newKey
  | enrollNixCacheKey
  | signNixCacheFingerprint
  | reload
  | explain
  | revoke
  | watch
  | connectionStatus
  | connectionDrop
  | useSoftwareCustody
  deriving DecidableEq

def Op.isWrite : Op → Bool
  | set | rotate | importKey | newKey | enrollNixCacheKey => true
  | _ => false

def allOps : List Op :=
  [.get, .list, .getPublicKey, .verify, .sign, .encrypt, .decrypt, .mint, .signNatsJwt,
    .validateNatsJwt, .encryptNatsCurve, .decryptNatsCurve, .validate, .set, .rotate, .importKey,
    .newKey]

namespace Op

instance : LinearOrder Op := LinearOrder.lift' Op.ctorIdx (Function.LeftInverse.injective Op.ofNat_ctorIdx)

def token : Op → String
  | get => "get"
  | list => "list"
  | getPublicKey => "get_public_key"
  | verify => "verify"
  | sign => "sign"
  | encrypt => "encrypt"
  | decrypt => "decrypt"
  | mint => "mint"
  | signNatsJwt => "sign_nats_jwt"
  | validateNatsJwt => "validate_nats_jwt"
  | encryptNatsCurve => "encrypt_nats_curve"
  | decryptNatsCurve => "decrypt_nats_curve"
  | validate => "validate"
  | set => "set"
  | rotate => "rotate"
  | importKey => "import"
  | newKey => "new_key"
  | enrollNixCacheKey => "enroll_nix_cache_key"
  | signNixCacheFingerprint => "sign_nix_cache_fingerprint"
  | reload => "reload"
  | explain => "explain"
  | revoke => "revoke"
  | watch => "watch"
  | connectionStatus => "connection_status"
  | connectionDrop => "connection_drop"
  | useSoftwareCustody => "use_software_custody"

end Op

inductive ActionTermError where
  | badAction (term : String)
  | unknownOp (token : String)
  deriving DecidableEq

def Op.parse (token : String) : Except ActionTermError Op :=
  match token with
  | "get" => .ok .get
  | "list" => .ok .list
  | "get_public_key" => .ok .getPublicKey
  | "verify" => .ok .verify
  | "sign" => .ok .sign
  | "encrypt" => .ok .encrypt
  | "decrypt" => .ok .decrypt
  | "mint" => .ok .mint
  | "sign_nats_jwt" => .ok .signNatsJwt
  | "validate_nats_jwt" => .ok .validateNatsJwt
  | "encrypt_nats_curve" => .ok .encryptNatsCurve
  | "decrypt_nats_curve" => .ok .decryptNatsCurve
  | "validate" => .ok .validate
  | "set" => .ok .set
  | "rotate" => .ok .rotate
  | "import" => .ok .importKey
  | "new_key" => .ok .newKey
  | "enroll_nix_cache_key" => .ok .enrollNixCacheKey
  | "sign_nix_cache_fingerprint" => .ok .signNixCacheFingerprint
  | "reload" => .ok .reload
  | "explain" => .ok .explain
  | "revoke" => .ok .revoke
  | "watch" => .ok .watch
  | "connection_status" => .ok .connectionStatus
  | "connection_drop" => .ok .connectionDrop
  | "use_software_custody" => .ok .useSoftwareCustody
  | other => .error (.unknownOp other)

theorem Op.parse_token (op : Op) : Op.parse op.token = .ok op := by
  cases op <;> rfl

theorem Op.parse_eq_ok {token : String} {op : Op} : Op.parse token = .ok op ↔ token = op.token := by
  constructor
  · intro h
    unfold Op.parse at h
    split at h <;> cases h <;> rfl
  · rintro rfl
    exact Op.parse_token op

inductive ActionTerm where
  | role (name : String)
  | op (op : Op)
  | anyOp
  deriving DecidableEq

def ActionTerm.parse (term : String) : Except ActionTermError ActionTerm :=
  if term = "*" then .ok .anyOp
  else
    match Text.stripLead "role:" term with
    | some name => .ok (.role name)
    | none =>
        match Text.stripLead "op:" term with
        | some token => do
            let op ← Op.parse token
            return .op op
        | none => .error (.badAction term)

/-- A rule with its terms parsed. The comment is left out: nothing reads it. -/
structure Rule where
  id : String
  subjects : List String
  action : List ActionTerm
  target : List KeyGlob

structure Grant where
  op : Op
  target : KeyGlob
  ruleId : String
  action : String
  deriving DecidableEq

structure ResolvedRule where
  subjects : List String
  grants : List Grant

structure ResolvedPolicy where
  subjects : OrdMap String SubjectDefinition
  rules : List ResolvedRule

structure NameTable where
  users : OrdMap Nat String
  groups : OrdMap Nat String

structure PolicyConfig where
  names : NameTable
  memberships : OrdMap Nat (List Nat)

structure PeerInfo where
  pid : Option Nat
  uid : Option Nat
  gid : Option Nat
  deriving DecidableEq

def PeerInfo.default : PeerInfo := ⟨none, none, none⟩

/-- The authenticated caller. The proof summaries and labels it carries for the
audit log are left out: no decision reads them. -/
structure AuthenticatedActor where
  domain : AuthorizationDomain
  subject : String
  presenter : PeerInfo
  deriving DecidableEq

def AuthenticatedActor.unixUid (actor : AuthenticatedActor) : Option Nat := actor.presenter.uid

inductive SubjectResolutionError where
  | missingPeerCredentials
  | resolution (error : EvidenceResolutionError)

def hostProcessSnapshot (config : PolicyConfig) (peer : PeerInfo) (uid : Nat) : EvidenceSnapshot where
  domain := some .hostProcess
  process :=
    { uids := some (CredentialSlots.uniform uid)
      gids := peer.gid.map CredentialSlots.uniform
      supplementaryGids := some ((config.memberships.get? uid).getD [])
      executableDigest := none }
  systemd := none
  invocationSignatureKey := none

def resolveEvidenceActor (policy : ResolvedPolicy) (evidence : EvidenceSnapshot) (peer : PeerInfo) :
    Except SubjectResolutionError AuthenticatedActor :=
  match resolveSubject policy.subjects evidence with
  | .error e => .error (.resolution e)
  | .ok resolution =>
      match resolution.subject with
      | none => .error (.resolution .domainUnavailable)
      | some subject => .ok ⟨resolution.domain, subject, peer⟩

def resolveUnixActorAs (policy : ResolvedPolicy) (config : PolicyConfig) (peer : PeerInfo)
    (uid : Nat) : Except SubjectResolutionError AuthenticatedActor :=
  resolveEvidenceActor policy (hostProcessSnapshot config peer uid) peer

def resolveLocalActor (policy : ResolvedPolicy) (config : PolicyConfig) (peer : PeerInfo) :
    Except SubjectResolutionError AuthenticatedActor :=
  match peer.uid with
  | none => .error .missingPeerCredentials
  | some uid => resolveUnixActorAs policy config peer uid

def resolveUnixActor (policy : ResolvedPolicy) (config : PolicyConfig) (uid : Nat) :
    Except SubjectResolutionError AuthenticatedActor :=
  resolveUnixActorAs policy config { PeerInfo.default with uid := some uid } uid

end Basil
