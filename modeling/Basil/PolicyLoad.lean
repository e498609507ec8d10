import Basil.Jwt
import Basil.Lib.Machine
import Basil.Loader
import Basil.SealedBox

/-!
# Policy loading (`core/catalog/loader.rs`)

From the policy document as deserialized to the resolved policy that the decision point reads:
subject expressions are compiled, rules parsed, roles expanded and grants laid out.
-/

namespace Basil.Loader

open Evidence Jwt Text

structure RawSubjectDefinition where
  domain : AuthorizationDomain
  breakGlass : Bool
  matchExpr : JsonValue

structure RawRule where
  id : String
  subjects : List String
  action : List String
  target : List String
  deriving DecidableEq

structure RawPolicy where
  subjects : OrdMap String RawSubjectDefinition
  roles : OrdMap String (List Op)
  rules : List RawRule
  config : PolicyConfig

/-! ### Local accounts -/

structure LocalAccounts where
  users : OrdMap String Nat
  groups : OrdMap String Nat

inductive LocalAccountSource where
  | passwd
  | group
  deriving DecidableEq

def LocalAccounts.table (accounts : LocalAccounts) : LocalAccountSource → OrdMap String Nat
  | .passwd => accounts.users
  | .group => accounts.groups

def parseAccountLine (fieldCount idIndex : Nat) (path : String) (entries : OrdMap String Nat)
    (line : String) : Except LoadError (OrdMap String Nat) :=
  if line = "" then .ok entries
  else do
    let fields := split ':' line
    let name ← orErr fields.head? (.localAccountDatabase path "file contains a malformed entry")
    let id ← orErr (fields[idIndex]?.bind (parseUnsigned u32Max))
      (.localAccountDatabase path "file contains a malformed or out-of-range identifier")
    ensure (fields.length = fieldCount ∧ name ≠ "" ∧ name.utf8ByteSize ≤ 128 ∧
        name.toList.any isControl = false ∧ entries.get? name = none)
      (.localAccountDatabase path "file contains a malformed or duplicate account name")
    return entries.insert name id

def parseAccountFile (contents : String) (fieldCount idIndex : Nat) (path : String) :
    Except LoadError (OrdMap String Nat) :=
  (lines contents).foldlM (parseAccountLine fieldCount idIndex path) OrdMap.empty

structure LoadEnv where
  passwdFile : Except LoadError String
  groupFile : Except LoadError String
  b64UrlDecode : String → Option Bytes
  crypto : SealCrypto

namespace LoadEnv

/-- `LocalAccounts::load`; the databases are read at the first symbolic name and kept. -/
def accounts (env : LoadEnv) : Except LoadError LocalAccounts := do
  let passwd ← env.passwdFile
  let group ← env.groupFile
  let users ← parseAccountFile passwd 7 2 "/etc/passwd"
  let groups ← parseAccountFile group 4 2 "/etc/group"
  return ⟨users, groups⟩

end LoadEnv

/-! ### Subject expressions -/

def maxExpressionDepth : Nat := 8
def maxExpressionLeaves : Nat := 64

def domainToken : AuthorizationDomain → String
  | .hostProcess => "host-process"
  | .systemdUnit => "systemd-unit"

def escaped (name : String) : String := String.ofList (name.toList.flatMap escapeDefault)

def invalidExpression {α : Type} (subject reason : String) : Except LoadError α :=
  .error (.invalidSubjectShape subject reason)

def asU64 : JsonValue → Option Nat
  | .num n => if 0 ≤ n ∧ n ≤ u64Max then some n.toNat else none
  | _ => none

section Compile

variable (env : LoadEnv) (subject : String)

def compileIdentity (domain : AuthorizationDomain) (predicate : String) (value : JsonValue)
    (source : LocalAccountSource) : Except LoadError IdentitySelector :=
  match asU64 value with
  | some id => do
      ensure (id ≤ u32Max)
        (.localAccountResolution subject "numeric-id" "numeric identifier is out of range")
      return .numeric id
  | none =>
      match value.asStr with
      | none => invalidExpression subject "process identities must be integers or local names"
      | some name => do
          ensure (name ≠ "" ∧ name.utf8ByteSize ≤ 128 ∧ name.toList.any isControl = false)
            (.invalidSubjectShape subject "local account name is empty, too long, or unsafe")
          ensure (parsesI128 name = false)
            (.invalidSubjectShape subject "numeric-looking identity strings are invalid")
          ensure (domain = .hostProcess ∨ predicate = "systemd.managerUser")
            (.symbolicProcessIdentity subject predicate (domainToken domain))
          let accounts ← env.accounts
          let id ← orErr ((accounts.table source).get? name) (.localAccountResolution subject
            (escaped name) "name is missing from the local account database")
          return .localName name id

def isLowerHex (c : Char) : Bool := c.isDigit || ('a' ≤ c && c ≤ 'f')

def systemdNameChars : List Char → Bool
  | [] => true
  | '\\' :: 'x' :: high :: low :: rest => isLowerHex high && isLowerHex low && systemdNameChars rest
  | c :: rest => (c.isAlphanum || c ∈ [':', '_', '.', '-']) && systemdNameChars rest

def validSystemdNameComponent (component : String) : Bool :=
  component ≠ "" && systemdNameChars component.toList

def validSystemdServiceName (name : String) (template : Bool) : Bool :=
  if name = "" ∨ name.utf8ByteSize > 255 ∨ name.toList.any isControl = true then false
  else
    match stripTail ".service" name with
    | none => false
    | some stem =>
        match split '@' stem with
        | [base] => validSystemdNameComponent base && !template
        | [base, inst] =>
            validSystemdNameComponent base &&
              if template then inst == "" else validSystemdNameComponent inst
        | _ => false

def compileSystemdSelector (value : JsonValue) (template : Bool) : Except LoadError SystemdSelector :=
  match value with
  | .obj fields => do
      ensure (fields.all (fun f => f.1 == "name" || f.1 == "managerUser") = true ∧ fields.length ≤ 2)
        (.invalidSubjectShape subject "systemd predicate contains unknown fields")
      let name ← orErr ((fields.lookup "name").bind JsonValue.asStr)
        (.invalidSubjectShape subject "systemd predicate requires string `name`")
      ensure (validSystemdServiceName name template = true)
        (.invalidSubjectShape subject "systemd name must be a canonical `.service` unit")
      match fields.lookup "managerUser" with
      | none => return ⟨name, none⟩
      | some value => do
          let managerUser ←
            compileIdentity env subject .systemdUnit "systemd.managerUser" value .passwd
          return ⟨name, some managerUser⟩
  | _ => invalidExpression subject "systemd predicate must be an object"

def validSha256Digest (value : String) : Bool :=
  (stripLead "sha256:" value).any fun hex => hex.utf8ByteSize = 64 && hex.toList.all isLowerHex

def signatureKeyAlgorithmToken : SignatureKeyAlgorithm → String
  | .ed25519 => "ed25519"
  | .natsNkey => "nats-nkey"

def validateSignaturePublic (algorithm : SignatureKeyAlgorithm) (publicKey : String) :
    Except LoadError Unit :=
  match algorithm with
  | .ed25519 =>
      ensure ((env.b64UrlDecode publicKey).any (·.length = 32) = true)
        (.malformedSignaturePublic subject (signatureKeyAlgorithmToken .ed25519)
          "expected base64url-no-pad 32-byte Ed25519 public key")
  | .natsNkey =>
      ensure ((Nats.decodePublic env.crypto publicKey).isOk = true)
        (.malformedSignaturePublic subject (signatureKeyAlgorithmToken .natsNkey)
          "expected a valid public NATS NKey")

def exactObject (value : JsonValue) (fields : List String) :
    Except LoadError (List (String × JsonValue)) :=
  match value with
  | .obj object => do
      ensure (object.length = fields.length ∧ fields.all (fun f => (object.lookup f).isSome) = true)
        (.invalidSubjectShape subject "compound predicate fields are incomplete or unknown")
      return object
  | _ => invalidExpression subject "compound predicate must be an object"

def compileSignatureKey (value : JsonValue) : Except LoadError EvidencePredicate := do
  let object ← exactObject subject value ["algorithm", "public"]
  let algorithm ← match (object.lookup "algorithm").bind JsonValue.asStr with
    | some "ed25519" => Except.ok SignatureKeyAlgorithm.ed25519
    | some "nats-nkey" => .ok .natsNkey
    | _ => invalidExpression subject "unknown signature-key algorithm"
  let publicKey ← orErr ((object.lookup "public").bind JsonValue.asStr)
    (.invalidSubjectShape subject "signature-key `public` must be a string")
  ensure (trim publicKey ≠ "") (.emptySignaturePublic subject)
  validateSignaturePublic env subject algorithm publicKey
  return .invocationSignatureKey algorithm publicKey

variable (domain : AuthorizationDomain)

def processUidSlot (key : String) (value : JsonValue) (slot : CredentialSlot) :
    Except LoadError EvidencePredicate := do
  let selector ← compileIdentity env subject domain key value .passwd
  return .processUidSlot slot selector

def processGidSlot (key : String) (value : JsonValue) (slot : CredentialSlot) :
    Except LoadError EvidencePredicate := do
  let selector ← compileIdentity env subject domain key value .group
  return .processGidSlot slot selector

def decodePredicate (key : String) (value : JsonValue) : Except LoadError EvidencePredicate :=
  match key with
  | "process.uid" => do
      let selector ← compileIdentity env subject domain "process.uid" value .passwd
      return .processUid selector
  | "process.uid.real" => processUidSlot env subject domain "process.uid.real" value .real
  | "process.uid.effective" =>
      processUidSlot env subject domain "process.uid.effective" value .effective
  | "process.uid.saved" => processUidSlot env subject domain "process.uid.saved" value .saved
  | "process.uid.filesystem" =>
      processUidSlot env subject domain "process.uid.filesystem" value .filesystem
  | "process.gid" => do
      let selector ← compileIdentity env subject domain "process.gid" value .group
      return .processGid selector
  | "process.gid.real" => processGidSlot env subject domain "process.gid.real" value .real
  | "process.gid.effective" =>
      processGidSlot env subject domain "process.gid.effective" value .effective
  | "process.gid.saved" => processGidSlot env subject domain "process.gid.saved" value .saved
  | "process.gid.filesystem" =>
      processGidSlot env subject domain "process.gid.filesystem" value .filesystem
  | "process.gid.supplementary" => do
      let selector ← compileIdentity env subject domain "process.gid.supplementary" value .group
      return .processGidSupplementary selector
  | "process.executable.digest" => do
      let digest ← orErr value.asStr
        (.invalidSubjectShape subject "predicate value must be a string")
      ensure (validSha256Digest digest = true) (.invalidSubjectShape subject
        "`process.executable.digest` must be `sha256:` plus 64 lowercase hex digits")
      return .processExecutableDigest digest
  | "systemd.unit" => do
      let selector ← compileSystemdSelector env subject value false
      return .systemdUnit selector
  | "systemd.template" => do
      let selector ← compileSystemdSelector env subject value true
      return .systemdTemplate selector
  | "invocation.signature-key" => compileSignatureKey env subject value
  | _ => invalidExpression subject "unknown evidence predicate"

def predicateToken : String → String
  | "systemd.unit" => "systemd.unit"
  | "systemd.template" => "systemd.template"
  | _ => "evidence"

def predicateInDomain : EvidencePredicate → Bool
  | .systemdUnit _ | .systemdTemplate _ => domain ≠ .hostProcess
  | _ => true

def compilePredicate (key : String) (value : JsonValue) : Except LoadError EvidencePredicate := do
  let predicate ← decodePredicate env subject domain key value
  ensure (predicateInDomain domain predicate = true)
    (.predicateDomainMismatch subject (predicateToken key) (domainToken domain))
  return predicate

def expressionTooComplex (depth leaves : Nat) : LoadError :=
  .subjectExpressionTooComplex subject depth maxExpressionDepth leaves maxExpressionLeaves

mutual
/-- One node below `groupDepth` groups; `leaves` counts the leaves so far. -/
def compileExpressionNode (value : JsonValue) (groupDepth leaves : Nat) :
    Except LoadError (EvidenceExpression × Nat) :=
  match value with
  | .obj [(key, value)] =>
      if key = "all" ∨ key = "any" then do
        ensure (groupDepth + 1 ≤ maxExpressionDepth)
          (expressionTooComplex subject (groupDepth + 1) leaves)
        match value with
        | .arr children => do
            ensure (children.isEmpty = false)
              (.invalidSubjectShape subject "`all` and `any` groups must not be empty")
            let (compiled, leaves) ← compileChildren children (groupDepth + 1) leaves
            return (if key = "all" then .all compiled else .any compiled, leaves)
        | _ => invalidExpression subject "`all` and `any` values must be arrays"
      else do
        ensure (leaves + 1 ≤ maxExpressionLeaves)
          (expressionTooComplex subject groupDepth (leaves + 1))
        let predicate ← compilePredicate env subject domain key value
        return (.leaf predicate, leaves + 1)
  | .obj _ => invalidExpression subject "each expression node must contain exactly one key"
  | _ => invalidExpression subject "expected an object with exactly one operator or leaf"

def compileChildren : List JsonValue → Nat → Nat → Except LoadError (List EvidenceExpression × Nat)
  | [], _, leaves => .ok ([], leaves)
  | child :: rest, groupDepth, leaves => do
      let (compiled, leaves) ← compileExpressionNode child groupDepth leaves
      let (children, leaves) ← compileChildren rest groupDepth leaves
      return (compiled :: children, leaves)
end

def compileExpression (value : JsonValue) : Except LoadError EvidenceExpression := do
  let (compiled, _) ← compileExpressionNode env subject domain value 0 0
  return compiled

end Compile

/-! ### Subjects -/

def parseSubject (env : LoadEnv) (name : String) (raw : RawSubjectDefinition) :
    Except LoadError (String × SubjectDefinition) := do
  let normalized := trim name
  ensure (normalized ≠ "") .emptySubjectName
  ensure (normalized.utf8ByteSize ≤ 128) (.subjectNameTooLong normalized.utf8ByteSize)
  ensure (normalized.toList.any isControl = false) (.badSubjectName (escaped normalized))
  let matchExpr ← compileExpression env normalized raw.domain raw.matchExpr
  ensure (matchExpr.depth ≤ maxExpressionDepth ∧ matchExpr.leafCount ≤ maxExpressionLeaves)
    (expressionTooComplex normalized matchExpr.depth matchExpr.leafCount)
  return (normalized, ⟨raw.domain, raw.breakGlass, matchExpr⟩)

def warnComplexSubject (name : String) (subject : SubjectDefinition) : List LoadWarning :=
  if subject.matchExpr.depth > 4 ∨ subject.matchExpr.leafCount > 16 then
    [.complexSubjectExpression name subject.matchExpr.depth subject.matchExpr.leafCount]
  else []

def parseSubjectEntries (env : LoadEnv) :
    OrdMap String SubjectDefinition → List (String × RawSubjectDefinition) →
      Except LoadError (OrdMap String SubjectDefinition × List LoadWarning)
  | subjects, [] => .ok (subjects, [])
  | subjects, (name, raw) :: rest => do
      let (name, subject) ← parseSubject env name raw
      let (subjects, warnings) ← parseSubjectEntries env (subjects.insert name subject) rest
      return (subjects, warnComplexSubject name subject ++ warnings)

def parseSubjects (env : LoadEnv) (raw : OrdMap String RawSubjectDefinition) :
    Except LoadError (OrdMap String SubjectDefinition × List LoadWarning) :=
  parseSubjectEntries env OrdMap.empty raw.entries

/-! ### Rules -/

def checkRuleSubjects (subjects : OrdMap String SubjectDefinition) (rule : String) :
    List String → Except LoadError Unit
  | [] => .ok ()
  | subject :: rest => do
      ensure ((subjects.get? subject).isSome = true) (.unknownSubject rule subject)
      checkRuleSubjects subjects rule rest

def parseRule (subjects : OrdMap String SubjectDefinition) (raw : RawRule) : Except LoadError Rule := do
  ensure (raw.subjects ≠ []) (.emptyRuleSubjects raw.id)
  checkRuleSubjects subjects raw.id raw.subjects
  let action ← (collect ActionTerm.parse raw.action).mapError (.badTerm raw.id)
  let target ← (collect KeyGlob.parse raw.target).mapError (.badGlob raw.id)
  ensure (target.any KeyGlob.matchesAll = false ∨
      raw.subjects.all (fun name => (subjects.get? name).any (·.breakGlass)) = true)
    (.nonBreakGlassAnyTarget raw.id)
  return ⟨raw.id, raw.subjects, action, target⟩

def parseRules (subjects : OrdMap String SubjectDefinition) :
    List String → List RawRule → Except LoadError (List Rule)
  | _, [] => .ok []
  | seen, raw :: rest => do
      ensure (raw.id ∉ seen) (.duplicateRuleId raw.id)
      let rule ← parseRule subjects raw
      let rules ← parseRules subjects (raw.id :: seen) rest
      return rule :: rules

def validateTermRole (roles : OrdMap String (List Op)) (rule : String) : ActionTerm → Except LoadError Unit
  | .role name => ensure ((roles.get? name).isSome = true) (.unknownRole rule name)
  | _ => .ok ()

def validateRuleRoles (roles : OrdMap String (List Op)) (rules : List Rule) : Except LoadError Unit := do
  let _ ← collect (fun rule => collect (validateTermRole roles rule.id) rule.action) rules
  return ()

/-! ### The resolved policy -/

def grantOp (spelling : String) (ops : OrdMap Op String) (op : Op) : OrdMap Op String :=
  match ops.get? op with
  | some _ => ops
  | none => ops.insert op spelling

def expandTerm (roles : OrdMap String (List Op)) (ops : OrdMap Op String) : ActionTerm → OrdMap Op String
  | .op op => grantOp ("op:" ++ op.token) ops op
  | .role name => ((roles.get? name).getD []).foldl (grantOp ("role:" ++ name)) ops
  | .anyOp => allOps.foldl (grantOp "*") ops

def expandOps (roles : OrdMap String (List Op)) (action : List ActionTerm) : OrdMap Op String :=
  action.foldl (expandTerm roles) OrdMap.empty

def resolveRule (roles : OrdMap String (List Op)) (rule : Rule) : ResolvedRule where
  subjects := rule.subjects
  grants := rule.target.flatMap fun target =>
    (expandOps roles rule.action).entries.map fun e => ⟨e.1, target, rule.id, e.2⟩

def buildResolved (subjects : OrdMap String SubjectDefinition) (rules : List Rule)
    (roles : OrdMap String (List Op)) : ResolvedPolicy :=
  ⟨subjects, rules.map (resolveRule roles)⟩

structure Loaded where
  catalog : Catalog
  policy : ResolvedPolicy
  config : PolicyConfig
  warnings : List LoadWarning

def Loaded.pdp (loaded : Loaded) : Pdp := ⟨loaded.catalog, loaded.policy, loaded.config⟩

def load (env : LoadEnv) (catalog : Catalog) (raw : RawPolicy) : Except LoadError Loaded := do
  let warnings ← validateCatalog catalog
  let (subjects, subjectWarnings) ← parseSubjects env raw.subjects
  let rules ← parseRules subjects [] raw.rules
  validateRuleRoles raw.roles rules
  return ⟨catalog, buildResolved subjects rules raw.roles, raw.config, warnings ++ subjectWarnings⟩

end Basil.Loader
