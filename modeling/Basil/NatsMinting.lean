import Basil.Manager
import Basil.Minting
import Basil.PolicyLoad

/-!
# Minting NATS credentials (`core/minter.rs`, `service/minting.rs`, the `basil-nats` crate)

Every NATS credential names its issuer by an nkey: the issuer key's public half under the role
that its `nats_type` label gives.
-/

namespace Basil.Nats

open Jwt List

def issuerRole (routed : Routed) (op : String) : Except Status NkeyType :=
  orErr routed.entry.labels.natsType
    (invalidRequest op "issuer key has no nats_type label for the NKey iss prefix")

def issuerRoleFor (manager : BackendManager) (keyId op : String) : Except Status NkeyType := do
  let routed ← (manager.resolve keyId).mapError fun err => managerStatus op (.resolve err)
  issuerRole routed op

/-! ### Nkeys -/

def NatsError.display : NatsError → String
  | badEncoding => "invalid NKey base32 encoding"
  | badPublicKeyLen n => "expected a 32-byte Ed25519 public key, got " ++ toString n
  | unsupportedPrefix c => "unsupported NKey prefix letter: " ++ c.toString
  | unexpectedPrefix expected actual =>
      "expected NKey role " ++ expected.letter.toString ++ ", got " ++ actual.letter.toString
  | unexpectedXkeyPrefix actual => "expected curve xkey prefix X, got " ++ actual.letter.toString
  | badXkeyVersion => "NATS xkey ciphertext has unsupported version"
  | badXkeyCiphertextLen n => "NATS xkey ciphertext is too short: " ++ toString n ++ " bytes"
  | xkeyRandomnessFailed => "NATS xkey randomness failed"
  | xkeySealFailed => "NATS xkey seal failed"
  | xkeyOpenFailed => "NATS xkey open failed"

/-- `publicKey` and `sign` are the answers of the issuer's backend to the two calls of a mint. -/
structure NatsEnv where
  crypto : SealCrypto
  jtiHash : Claims → String
  publicKey : Location → Except BackendError Bytes
  sign : Location → String → Except BackendError Bytes

variable (nats : NatsEnv)

def encodeNkey (role : NkeyType) (publicKey : Bytes) : Except NatsError String := do
  let key ← orErr (FixedBytes.ofBytes? 32 publicKey) (.badPublicKeyLen publicKey.length)
  return encodePublic nats.crypto role key

def requirePublicPrefix (nkey : String) (expected : NkeyType) :
    Except NatsError (FixedBytes 32) := do
  let (actual, key) ← decodePublic nats.crypto nkey
  ensure (actual = expected) (.unexpectedPrefix expected actual)
  return key

def requireRole (what nkey : String) (role : NkeyType) : Except BackendError Unit := do
  let _ ← (requirePublicPrefix nats nkey role).mapError fun err =>
    BackendError.protocol (what ++ ": " ++ err.display)
  return ()

def requireRoles (what : String) (nkeys : List String) (role : NkeyType) :
    Except BackendError Unit := nkeys.forM fun nkey => requireRole nats what nkey role

def ensureIssuerRole (issuer : NkeyType) (allowed : List NkeyType) (claimKind : String) :
    Except BackendError Unit :=
  ensure (issuer ∈ allowed) (.protocol ("unsupported issuer role " ++ issuer.letter.toString ++
    " for nats " ++ claimKind ++ "; expected one of " ++ String.ofList (allowed.map NkeyType.letter)))

/-! ### Claims -/

inductive RoleKind where
  | server
  | curve
  | signer
  deriving DecidableEq

def RoleKind.asStr : RoleKind → String
  | server => "server"
  | curve => "curve"
  | signer => "signer"

structure UserPermissions where
  pubAllow : List String
  pubDeny : List String
  subAllow : List String
  subDeny : List String

def listField (name : String) (items : List String) : List (String × JsonValue) :=
  if items = [] then [] else [(name, .arr (items.map .str))]

def textField (name text : String) : List (String × JsonValue) :=
  if text = "" then [] else [(name, .str text)]

def blockType (kind : String) : List (String × JsonValue) := [("type", .str kind), ("version", .num 2)]

def permission (allow deny : List String) : JsonValue :=
  .obj (listField "allow" allow ++ listField "deny" deny)

def userBlock (issuerAccount : Option String) (permissions : UserPermissions) : JsonValue :=
  .obj ([("pub", permission permissions.pubAllow permissions.pubDeny),
    ("sub", permission permissions.subAllow permissions.subDeny),
    ("subs", .num (-1)), ("data", .num (-1)), ("payload", .num (-1))] ++
    (issuerAccount.toList.map fun account => ("issuer_account", .str account)) ++ blockType "user")

def unlimited : JsonValue :=
  .obj [("subs", .num (-1)), ("data", .num (-1)), ("payload", .num (-1)), ("imports", .num (-1)),
    ("exports", .num (-1)), ("wildcards", .bool true), ("conn", .num (-1)), ("leaf", .num (-1))]

def accountBlock (signingKeys : List String) : JsonValue :=
  .obj ([("limits", unlimited)] ++ listField "signing_keys" signingKeys ++ blockType "account")

def operatorBlock (signingKeys : List String) (accountServerUrl systemAccount : String) : JsonValue :=
  .obj (listField "signing_keys" signingKeys ++ textField "account_server_url" accountServerUrl ++
    textField "system_account" systemAccount ++ blockType "operator")

def roleBlock (kind : RoleKind) : JsonValue := .obj (blockType kind.asStr)

def claimsOf (members : List (String × JsonValue)) : Claims :=
  members.foldl (fun claims m => claims.insert m.1 m.2) ∅

def jtiForStandardClaims (iss sub : String) (name : Option String) (iat : Nat) (exp : Option Nat)
    (aud : Option String) (nbf : Option Nat) : String :=
  let time (field : String) (value : Option Nat) : List (String × JsonValue) :=
    ((value.filter (· ≠ 0)).toList).map fun n => (field, .num n)
  nats.jtiHash (claimsOf (textField "aud" (aud.getD "") ++ time "exp" exp ++
    [("iat", .num iat), ("iss", .str iss)] ++ textField "name" (name.getD "") ++ time "nbf" nbf ++
    [("sub", .str sub)]))

structure StandardClaims where
  sub : String
  name : String
  iat : Nat
  exp : Option Nat

def tokenClaims (iss : String) (standard : StandardClaims) (block : JsonValue) : Claims :=
  let jti := jtiForStandardClaims nats iss standard.sub (some standard.name) standard.iat standard.exp
    none none
  claimsOf ([("jti", .str jti), ("iat", .num standard.iat), ("iss", .str iss)] ++
    textField "name" standard.name ++ (standard.exp.toList.map fun n => ("exp", .num n)) ++
    [("nats", block), ("sub", .str standard.sub)])

/-! ### The minters -/

def header : String := "eyJ0eXAiOiJKV1QiLCJhbGciOiJlZDI1NTE5LW5rZXkifQ"

variable (codec : JwsCodec)

def issuerNkey (location : Location) (issuerRole : NkeyType) : Except BackendError String := do
  let publicKey ← nats.publicKey location
  (encodeNkey nats issuerRole publicKey).mapError fun err =>
    .protocol ("deriving issuer nkey: " ++ err.display)

def signClaims (location : Location) (claims : Claims) : Except BackendError String := do
  let payload := codec.encodeClaims claims
  let signature ← nats.sign location (signingInput header payload)
  return assemble header payload (codec.encodeSig signature)

structure MintSpec where
  issuerRole : NkeyType
  name : String
  expiresIn : Option Nat
  now : Nat

def MintSpec.standard (spec : MintSpec) (sub : String) : StandardClaims where
  sub := sub
  name := spec.name
  iat := spec.now
  exp := spec.expiresIn.map (satAddU64 spec.now)

def mintNatsUser (location : Location) (spec : MintSpec) (subjectUserNkey : String)
    (issuerAccount : Option String) (permissions : UserPermissions) : Except BackendError String := do
  ensureIssuerRole spec.issuerRole [.account] "user"
  requireRole nats "invalid subject user nkey" subjectUserNkey .user
  requireRoles nats "invalid issuer account nkey" issuerAccount.toList .account
  let issuer ← issuerNkey nats location spec.issuerRole
  signClaims nats codec location
    (tokenClaims nats issuer (spec.standard subjectUserNkey) (userBlock issuerAccount permissions))

def mintNatsAccount (location : Location) (spec : MintSpec) (subjectAccountNkey : String)
    (signingKeys : List String) : Except BackendError String := do
  ensureIssuerRole spec.issuerRole [.account, .operator] "account"
  requireRole nats "invalid subject account nkey" subjectAccountNkey .account
  requireRoles nats "invalid account signing key" signingKeys .account
  let issuer ← issuerNkey nats location spec.issuerRole
  signClaims nats codec location
    (tokenClaims nats issuer (spec.standard subjectAccountNkey) (accountBlock signingKeys))

/-- The only minter that reads the issuer before it checks the nkeys of the request; an
operator without an explicit subject signs itself. -/
def mintNatsOperator (location : Location) (spec : MintSpec) (subjectOperatorNkey : Option String)
    (signingKeys : List String) (accountServerUrl systemAccount : String) :
    Except BackendError String := do
  ensureIssuerRole spec.issuerRole [.operator] "operator"
  let issuer ← issuerNkey nats location spec.issuerRole
  requireRoles nats "invalid subject operator nkey" subjectOperatorNkey.toList .operator
  requireRoles nats "invalid operator signing key" signingKeys .operator
  requireRoles nats "invalid system account nkey"
    (if systemAccount = "" then [] else [systemAccount]) .account
  signClaims nats codec location (tokenClaims nats issuer
    (spec.standard (subjectOperatorNkey.getD issuer))
    (operatorBlock signingKeys accountServerUrl systemAccount))

def mintNatsRole (location : Location) (spec : MintSpec) (subjectNkey : String)
    (subjectRole : NkeyType) (kind : RoleKind) : Except BackendError String := do
  ensureIssuerRole spec.issuerRole [subjectRole] kind.asStr
  requireRole nats ("invalid subject " ++ kind.asStr ++ " nkey") subjectNkey subjectRole
  let issuer ← issuerNkey nats location spec.issuerRole
  signClaims nats codec location (tokenClaims nats issuer (spec.standard subjectNkey) (roleBlock kind))

def mintNatsServer (location : Location) (spec : MintSpec) (subjectServerNkey : String) :
    Except BackendError String :=
  mintNatsRole nats codec location spec subjectServerNkey .server .server

def mintNatsCurve (location : Location) (spec : MintSpec) (subjectCurveNkey : String) :
    Except BackendError String :=
  mintNatsRole nats codec location spec subjectCurveNkey .curve .curve

def mintNatsSigner (location : Location) (spec : MintSpec) (subjectNkey : String) :
    Except BackendError String := do
  ensureIssuerRole spec.issuerRole [.account, .operator] "signer"
  requireRole nats "invalid subject signer nkey" subjectNkey spec.issuerRole
  let issuer ← issuerNkey nats location spec.issuerRole
  signClaims nats codec location (tokenClaims nats issuer (spec.standard subjectNkey) (roleBlock .signer))

/-! ### `sign_nats_jwt` -/

inductive NatsJwtKind where
  | user
  | account
  | operator
  | signer
  | server
  | curve
  deriving DecidableEq

namespace NatsJwtKind

def parse : String → Option NatsJwtKind
  | "user" => some user
  | "account" => some account
  | "operator" => some operator
  | "signer" => some signer
  | "server" => some server
  | "curve" => some curve
  | _ => none

def asStr : NatsJwtKind → String
  | user => "user"
  | account => "account"
  | operator => "operator"
  | signer => "signer"
  | server => "server"
  | curve => "curve"

def allowedIssuers : NatsJwtKind → List NkeyType
  | user => [.account]
  | account | signer => [.account, .operator]
  | operator => [.operator]
  | server => [.server]
  | curve => [.curve]

def subjectRole (issuerRole : NkeyType) : NatsJwtKind → NkeyType
  | user => .user
  | account => .account
  | signer => issuerRole
  | operator => .operator
  | server => .server
  | curve => .curve

end NatsJwtKind

inductive NatsJtiMode where
  | requireValid
  | rewrite
  deriving DecidableEq

structure SignNatsJwtSpec where
  issuerRole : NkeyType
  claims : JsonValue
  expectedKind : Option NatsJwtKind
  issuedAt : Option Nat
  expiresAt : Option Nat
  jtiMode : NatsJtiMode
  now : Nat

def invalidClaim {α : Type} (field reason : String) : Except BackendError α :=
  .error (.protocol ("invalid nats jwt " ++ field ++ ": " ++ reason))

def claimU64 (value : JsonValue) (field : String) : Except BackendError Nat :=
  match Loader.asU64 value with
  | some n => .ok n
  | none => invalidClaim field "required u64"

def setOrValidateString (claims : Claims) (field expected : String) : Except BackendError Claims :=
  match claims.lookup field with
  | some value =>
      if value.asStr = some expected then .ok claims
      else invalidClaim field "does not match signing key"
  | none => .ok (claims.insert field (.str expected))

def requiredClaimString (claims : Claims) (field : String) : Except BackendError String :=
  match (claims.strClaim field).filter (· ≠ "") with
  | some text => .ok text
  | none => invalidClaim field "required string"

def optionalClaimString (claims : Claims) (field : String) : Except BackendError (Option String) :=
  match claims.lookup field with
  | none => .ok none
  | some value =>
      match value.asStr with
      | some text => .ok (if text = "" then none else some text)
      | none => invalidClaim field "required string"

def optionalClaimU64 (claims : Claims) (field : String) : Except BackendError (Option Nat) :=
  match claims.lookup field with
  | none => .ok none
  | some value => do
      let n ← claimU64 value field
      return some n

def settleIat (claims : Claims) (issuedAt : Option Nat) (now : Nat) :
    Except BackendError (Claims × Nat) :=
  match issuedAt, claims.lookup "iat" with
  | some n, _ => .ok (claims.insert "iat" (.num n), n)
  | none, some value => do
      let n ← claimU64 value "iat"
      return (claims, n)
  | none, none => .ok (claims.insert "iat" (.num now), now)

def settleExp (claims : Claims) (expiresAt : Option Nat) : Except BackendError (Claims × Option Nat) :=
  match expiresAt with
  | some n => .ok (claims.insert "exp" (.num n), some n)
  | none => do
      let exp ← optionalClaimU64 claims "exp"
      return (claims, exp)

def validateNatsClaim (claims : Claims) (expectedKind : Option NatsJwtKind) :
    Except BackendError NatsJwtKind :=
  match claims.lookup "nats" with
  | some (.obj members) => do
      let block := claimsOf members
      let kind ← orErr ((block.strClaim "type").bind NatsJwtKind.parse)
        (.protocol "invalid nats jwt nats.type: unsupported or missing")
      ensure (expectedKind.all (· = kind)) (.protocol ("invalid nats jwt nats.type: expected " ++
        ((expectedKind.map NatsJwtKind.asStr).getD "") ++ ", got " ++ kind.asStr))
      let version ← orErr (block.lookup "version")
        (.protocol "invalid nats jwt nats.version: expected 2")
      let version ← claimU64 version "nats.version"
      ensure (version = 2) (.protocol "invalid nats jwt nats.version: expected 2")
      return kind
  | _ => invalidClaim "nats" "required object"

def validateNatsRoles (issuerRole : NkeyType) (kind : NatsJwtKind) (subjectNkey : String) :
    Except BackendError Unit := do
  ensureIssuerRole issuerRole kind.allowedIssuers kind.asStr
  requireRole nats "invalid nats jwt sub" subjectNkey (kind.subjectRole issuerRole)

def settleJti (claims : Claims) (computed : String) (mode : NatsJtiMode) : Except BackendError Claims :=
  match claims.lookup "jti" with
  | some value =>
      if value.asStr = some computed then .ok claims
      else if mode = .rewrite then .ok (claims.insert "jti" (.str computed))
      else invalidClaim "jti" "supplied jti does not match standard claims"
  | none => .ok (claims.insert "jti" (.str computed))

/-- The claims that are signed for a document of the caller's and an issuer. -/
def normalizeClaims (spec : SignNatsJwtSpec) (issuer : String) (claims : Claims) :
    Except BackendError Claims := do
  let claims ← setOrValidateString claims "iss" issuer
  let (claims, iat) ← settleIat claims spec.issuedAt spec.now
  let (claims, exp) ← settleExp claims spec.expiresAt
  let sub ← requiredClaimString claims "sub"
  let name ← optionalClaimString claims "name"
  let aud ← optionalClaimString claims "aud"
  let nbf ← optionalClaimU64 claims "nbf"
  let kind ← validateNatsClaim claims spec.expectedKind
  validateNatsRoles nats spec.issuerRole kind sub
  settleJti claims (jtiForStandardClaims nats issuer sub name iat exp aud nbf) spec.jtiMode

def signNatsJwt (location : Location) (spec : SignNatsJwtSpec) : Except BackendError String := do
  let claims ← match spec.claims with
    | .obj members => .ok (claimsOf members)
    | _ => invalidClaim "claims" "expected object"
  let issuer ← issuerNkey nats location spec.issuerRole
  let claims ← normalizeClaims nats spec issuer claims
  signClaims nats codec location claims

/-! ### The issuer that a credential names -/

variable {field : String} {claims claims' : Claims}

theorem claimsOf_lookup (members : List (String × JsonValue)) {rest : List (String × JsonValue)}
    {value : JsonValue} (h : ∀ m ∈ rest, m.1 ≠ field) :
    (claimsOf (members ++ (field, value) :: rest)).lookup field = some value := by
  rw [claimsOf, foldl_append, foldl_cons]
  have hlast : ∀ claims : Claims, claims.lookup field = some value →
      (rest.foldl (fun claims m => claims.insert m.1 m.2) claims).lookup field = some value := by
    induction rest with
    | nil => exact fun claims hclaims => hclaims
    | cons m rest ih =>
      intro claims hclaims
      apply ih fun m' hm' => h m' (mem_cons_of_mem _ hm')
      rw [Table.lookup_insert_eq, if_neg (h m (mem_cons_self ..)).symm, hclaims]
  apply hlast
  rw [Table.lookup_insert_eq, if_pos rfl]

theorem tokenClaims_iss (iss : String) (standard : StandardClaims) (block : JsonValue) :
    (tokenClaims nats iss standard block).strClaim "iss" = some iss := by
  have hlookup : (tokenClaims nats iss standard block).lookup "iss" = some (.str iss) := by
    simp only [tokenClaims, append_assoc, cons_append, nil_append]
    apply claimsOf_lookup [("jti", _), ("iat", _)]
    intro m hm
    simp only [mem_append, textField, mem_map, mem_cons, not_mem_nil,
      or_false] at hm
    rcases hm with hm | ⟨_, -, rfl⟩ | rfl | rfl
    · split at hm
      · cases hm
      · rw [mem_singleton.mp hm]
        simp
    · simp
    · simp
    · simp
  rw [Claims.strClaim, hlookup]
  rfl

theorem setOrValidateString_ok {expected : String}
    (h : setOrValidateString claims field expected = .ok claims') :
    claims'.strClaim field = some expected := by
  unfold setOrValidateString at h
  split at h
  · next value hlookup =>
    split at h
    · next htext =>
      cases h
      rw [Claims.strClaim, hlookup]
      exact htext
    · cases h
  · cases h
    rw [Claims.strClaim, Table.lookup_insert_eq, if_pos rfl]
    rfl

def Settled (field : String) (claims claims' : Claims) : Prop :=
  claims' = claims ∨ ∃ value, claims' = claims.insert field value

theorem Settled.strClaim {other : String} (h : Settled other claims claims') (hne : field ≠ other) :
    claims'.strClaim field = claims.strClaim field := by
  rcases h with rfl | ⟨_, rfl⟩
  · rfl
  · rw [Claims.strClaim, Table.lookup_insert_eq, if_neg hne, Claims.strClaim]

theorem settleIat_ok {issuedAt : Option Nat} {now iat : Nat}
    (h : settleIat claims issuedAt now = .ok (claims', iat)) : Settled "iat" claims claims' := by
  unfold settleIat at h
  split at h
  · cases h
    exact .inr ⟨_, rfl⟩
  · simp only [eq_ok] at h
    obtain ⟨_, -, hpair⟩ := h
    cases hpair
    exact .inl rfl
  · cases h
    exact .inr ⟨_, rfl⟩

theorem settleExp_ok {expiresAt exp : Option Nat}
    (h : settleExp claims expiresAt = .ok (claims', exp)) : Settled "exp" claims claims' := by
  cases expiresAt with
  | some n =>
    cases h
    exact .inr ⟨_, rfl⟩
  | none =>
    simp only [settleExp, eq_ok] at h
    obtain ⟨_, -, hpair⟩ := h
    cases hpair
    exact .inl rfl

theorem settleJti_ok {computed : String} {mode : NatsJtiMode}
    (h : settleJti claims computed mode = .ok claims') : Settled "jti" claims claims' := by
  unfold settleJti at h
  split at h
  · split at h
    · cases h
      exact .inl rfl
    · split at h
      · cases h
        exact .inr ⟨_, rfl⟩
      · cases h
  · cases h
    exact .inr ⟨_, rfl⟩

theorem normalizeClaims_iss {spec : SignNatsJwtSpec} {issuer : String} {signed : Claims}
    (h : normalizeClaims nats spec issuer claims = .ok signed) :
    signed.strClaim "iss" = some issuer := by
  simp only [normalizeClaims, bind_eq_ok] at h
  obtain ⟨withIss, hiss, ⟨withIat, _⟩, hiat, ⟨withExp, _⟩, hexp, _, -, _, -, _, -, _, -,
    _, -, -, -, hjti⟩ := h
  calc signed.strClaim "iss"
      = withExp.strClaim "iss" := (settleJti_ok hjti).strClaim (by decide)
    _ = withIat.strClaim "iss" := (settleExp_ok hexp).strClaim (by decide)
    _ = withIss.strClaim "iss" := (settleIat_ok hiat).strClaim (by decide)
    _ = some issuer := setOrValidateString_ok hiss

end Basil.Nats
