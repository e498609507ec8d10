import Basil.Jwt
import Basil.Lib.Machine
import Basil.Revocation

/-!
# JWT-SVID validation (`service/spiffe.rs`)
-/

namespace Basil.Svid

open Jwt Revocation

/-! ### SPIFFE ids -/

def spiffeParts (id : String) : Option (String × String) :=
  (Text.stripLead "spiffe://" id).bind (Text.splitOnce '/')

def isValidSpiffePart (part : String) : Bool :=
  part ≠ "" ∧ part.toList.any Text.isWhitespace = false

def isSpiffeId (id : String) : Bool :=
  (spiffeParts id).any fun p => isValidSpiffePart p.1 && isValidSpiffePart p.2

def spiffeIdMatchesTrustDomain (spiffeId : String) (entry : KeyEntry) : Bool :=
  (entry.labels.get "trust_domain").any fun trustDomain =>
    (spiffeParts spiffeId).any fun p => decide (p.1 = trustDomain) && decide (p.2 ≠ "")

/-! ### Issuers -/

def isJwtSvidIssuer (entry : KeyEntry) : Bool :=
  decide (entry.keyClass = .asymmetric) && decide (entry.labels.get "svid_kind" = some "jwt") &&
    (entry.labels.get "trust_domain").isSome && entry.keyType.any KeyAlgorithm.isSpiffeJwtSvidProfile

/-- The `iss` of an issuer key: its `spiffe_id` label, else its catalog name. -/
def issuerId (name : String) (entry : KeyEntry) : String :=
  (entry.labels.get "spiffe_id").getD name

def invalidArgument (message : String) : Status := workloadStatus .invalidArgument message

def validationFailed : Status := invalidArgument "JWT-SVID validation failed"

def svidAlg : Option KeyAlgorithm → Except Status SvidAlg
  | some .rsa2048 => .ok .rs256
  | some .ecdsaP256 => .ok .es256
  | some .ecdsaP384 => .ok .es384
  | _ => .error (workloadStatus .failedPrecondition "JWT-SVID issuer key cannot sign JWT-SVIDs")

structure JwtValidationIssuer where
  location : Location
  issuerId : String
  entry : KeyEntry
  deriving DecidableEq

def validationCandidates (catalog : Catalog) (iss sub : String) : List (String × KeyEntry) :=
  catalog.keys.entries.filter fun e =>
    isJwtSvidIssuer e.2 && spiffeIdMatchesTrustDomain sub e.2 && decide (issuerId e.1 e.2 = iss)

def jwtValidationIssuer (manager : BackendManager) (g : Generation) (uid : Nat) (claims : Claims) :
    Except Status JwtValidationIssuer := do
  let actor ← (g.pdp.resolveUnixActor uid).mapError fun _ =>
    workloadStatus .permissionDenied "no configured subject for ValidateJWTSVID caller"
  let iss ← orErr (claims.strClaim "iss") validationFailed
  let sub ← orErr (claims.strClaim "sub") validationFailed
  ensure (isSpiffeId sub = true) validationFailed
  let candidates := validationCandidates g.catalog iss sub
  match candidates.find? fun e => g.pdp.allows actor .validate e.1 with
  | some (name, entry) =>
      let routed ← (manager.resolve name).mapError fun e => workloadStatus .internal e.display
      return ⟨routed.location, issuerId name entry, entry⟩
  | none =>
      if candidates.isEmpty then throw validationFailed
      else throw (workloadStatus .permissionDenied "not authorized to validate a JWT-SVID")

/-! ### Token validation -/

def isPem (publicKey : Bytes) : Bool :=
  (String.fromUTF8? ⟨publicKey.toArray⟩).any fun text =>
    "-----BEGIN ".toList.isPrefixOf (text.toList.dropWhile Text.isWhitespace)

/-- `decoding_key`: raw Ed25519 bytes, or a PEM the library parses, or DER as it is. -/
def decodingKey (pemOk : SvidAlg → Bytes → Bool) (publicKey : Bytes) (alg : SvidAlg) :
    Except Status Bytes := do
  match alg with
  | .edDsa => ensure (publicKey.length = 32) validationFailed
  | alg => ensure (isPem publicKey = true → pemOk alg publicKey = true) validationFailed
  return publicKey

def svidValidation (alg : SvidAlg) (issuerId audience : String) : Validation :=
  { Validation.new alg with
    requiredSpecClaims := ["exp", "iss", "sub", "aud"]
    iss := some [issuerId]
    aud := some [audience] }

structure ValidJwtSvid where
  spiffeId : String
  claims : Claims

structure ValidationEnv (codec : JwsCodec) where
  lib : JwtLibrary codec
  pemOk : SvidAlg → Bytes → Bool
  publicKey : Location → Except BackendError Bytes

variable {codec : JwsCodec}

def validateJwtSvid (env : ValidationEnv codec) (issuer : JwtValidationIssuer)
    (audience token : String) (now : Nat) : Except Status ValidJwtSvid := do
  let alg ← svidAlg issuer.entry.keyType
  let publicKey ← (env.publicKey issuer.location).mapError fun _ => validationFailed
  let key ← decodingKey env.pemOk publicKey alg
  let claims ← orErr (env.lib.decode token key (svidValidation alg issuer.issuerId audience) now)
    validationFailed
  let spiffeId ← orErr ((claims.strClaim "sub").filter fun sub =>
    isSpiffeId sub && spiffeIdMatchesTrustDomain sub issuer.entry) validationFailed
  return ⟨spiffeId, claims⟩

def rejectRevokedJwtsvid (store : JwtRevocationStore) (trustDomain : String) (claims : Claims)
    (now : Nat) : JwtRevocationStore × Except Status Unit :=
  match claims.strClaim "jti" with
  | none => (store, .error validationFailed)
  | some jti =>
      match store.isRevoked trustDomain jti now with
      | (store, true) => (store, .error validationFailed)
      | (store, false) => (store, .ok ())

/-! ### The handler -/

structure ValidateRequest where
  header : List (Option String)
  peer : PeerInfo
  audience : String
  svid : String

def requireWorkloadHeader (values : List (Option String)) : Except Status Unit :=
  ensure (values = [some "true"])
    (invalidArgument "SPIFFE Workload API requests require workload.spiffe.io=true")

/-- `validate_jwtsvid` up to the deny-list. -/
def validateBeforeDenyList (manager : BackendManager) (g : Generation) (env : ValidationEnv codec)
    (req : ValidateRequest) (now : Nat) : Except Status (ValidJwtSvid × String) := do
  requireWorkloadHeader req.header
  let uid ← orErr req.peer.uid
    (workloadStatus .unauthenticated "missing peer credentials for ValidateJWTSVID")
  ensure (Text.trim req.audience ≠ "" ∧ Text.trim req.svid ≠ "")
    (invalidArgument "ValidateJWTSVID requires a non-empty audience and SVID")
  let unverified ← orErr (unverifiedClaims codec req.svid) validationFailed
  let issuer ← jwtValidationIssuer manager g uid unverified
  let validation ← validateJwtSvid env issuer req.audience req.svid now
  let trustDomain ← orErr (issuer.entry.labels.get "trust_domain") validationFailed
  return (validation, trustDomain)

def validateJwtsvid (manager : BackendManager) (g : Generation) (env : ValidationEnv codec)
    (store : JwtRevocationStore) (req : ValidateRequest) (decodeNow denyNow : Nat) :
    JwtRevocationStore × Except Status ValidJwtSvid :=
  match validateBeforeDenyList manager g env req decodeNow with
  | .error e => (store, .error e)
  | .ok (validation, trustDomain) =>
      match rejectRevokedJwtsvid store trustDomain validation.claims denyNow with
      | (store, .error e) => (store, .error e)
      | (store, .ok ()) => (store, .ok validation)

/-! ### What an accepted token satisfies -/

variable {sub trustDomain : String} {env : ValidationEnv codec} {issuer : JwtValidationIssuer}
  {now uid : Nat} {v : ValidJwtSvid} {manager : BackendManager} {g : Generation}
  {req : ValidateRequest} {claims : Claims}

theorem spiffeIdMatches_eq {entry : KeyEntry} (h : spiffeIdMatchesTrustDomain sub entry = true) :
    (spiffeParts sub).map Prod.fst = entry.labels.get "trust_domain" := by
  unfold spiffeIdMatchesTrustDomain at h
  cases htd : entry.labels.get "trust_domain" with
  | none => simp [htd] at h
  | some trustDomain =>
    cases hparts : spiffeParts sub with
    | none => simp [htd, hparts] at h
    | some p =>
      simp only [htd, hparts, Option.any_some, Bool.and_eq_true, decide_eq_true_eq] at h
      simp [h.1]

theorem validateJwtSvid_ok {audience token : String}
    (h : validateJwtSvid env issuer audience token now = .ok v) :
    ∃ alg publicKey, svidAlg issuer.entry.keyType = .ok alg ∧
      env.publicKey issuer.location = .ok publicKey ∧
      env.lib.decode token publicKey (svidValidation alg issuer.issuerId audience) now =
        some v.claims ∧
      v.claims.strClaim "sub" = some v.spiffeId ∧ isSpiffeId v.spiffeId = true ∧
      spiffeIdMatchesTrustDomain v.spiffeId issuer.entry = true := by
  simp only [validateJwtSvid, bind_eq_ok, orErr_eq_ok, pure_eq_ok] at h
  obtain ⟨alg, halg, publicKey, hkey, key, hdecoding, claims, hdecode, sub, hsub, rfl⟩ := h
  rw [mapError_eq_ok] at hkey
  have hsame : publicKey = key := by
    unfold decodingKey at hdecoding
    split at hdecoding <;> simp only [eq_ok] at hdecoding <;>
      exact hdecoding.choose_spec.2
  subst hsame
  rw [Option.filter_eq_some_iff] at hsub
  have hboth := hsub.2
  rw [Bool.and_eq_true] at hboth
  exact ⟨alg, publicKey, halg, hkey, hdecode, hsub.1, hboth.1, hboth.2⟩

theorem validateBeforeDenyList_issuer
    (h : validateBeforeDenyList manager g env req now = .ok (v, trustDomain)) :
    ∃ uid issuer, req.peer.uid = some uid ∧
      jwtValidationIssuer manager g uid v.claims = .ok issuer ∧
      validateJwtSvid env issuer req.audience req.svid now = .ok v := by
  simp only [validateBeforeDenyList, eq_ok, Prod.mk.injEq] at h
  obtain ⟨-, -, uid, huid, -, -, _, hunverified, issuer, hissuer, _, hvalid, _, -, rfl,
    rfl⟩ := h
  obtain ⟨_, _, -, -, hdecode, -⟩ := validateJwtSvid_ok hvalid
  have hread := (env.lib.decode_unverified hdecode).1
  rw [hunverified] at hread
  cases hread
  exact ⟨uid, issuer, huid, hissuer, hvalid⟩

theorem validateBeforeDenyList_ok
    (h : validateBeforeDenyList manager g env req now = .ok (v, trustDomain)) :
    unverifiedClaims codec req.svid = some v.claims ∧
      v.claims.strClaim "sub" = some v.spiffeId ∧
      (spiffeParts v.spiffeId).map Prod.fst = some trustDomain ∧
      ∀ exp, expClaim v.claims = some exp → now ≤ exp + 60 := by
  simp only [validateBeforeDenyList, eq_ok, Prod.mk.injEq] at h
  obtain ⟨-, -, _, -, -, -, _, -, _, -, _, hvalid, _, htd, rfl, rfl⟩ := h
  obtain ⟨_, _, -, -, hdecode, hsub, -, hmatch⟩ := validateJwtSvid_ok hvalid
  have hread := env.lib.decode_unverified hdecode
  have hparts := spiffeIdMatches_eq hmatch
  refine ⟨hread.1, hsub, by rw [hparts, htd], ?_⟩
  intro exp hexp
  have haccepts := hread.2
  simp only [Validation.accepts, Bool.and_eq_true] at haccepts
  have hexpOk := haccepts.1.1.2
  rw [Validation.expOk, hexp] at hexpOk
  exact of_decide_eq_true hexpOk

theorem jwtValidationIssuer_ok (h : jwtValidationIssuer manager g uid claims = .ok issuer) :
    ∃ actor iss sub name routed, g.pdp.resolveUnixActor uid = .ok actor ∧
      claims.strClaim "iss" = some iss ∧ claims.strClaim "sub" = some sub ∧ isSpiffeId sub = true ∧
      (validationCandidates g.catalog iss sub).find? (fun e => g.pdp.allows actor .validate e.1) =
        some (name, issuer.entry) ∧
      manager.resolve name = .ok routed ∧ issuer.location = routed.location := by
  simp only [jwtValidationIssuer, eq_ok] at h
  obtain ⟨actor, hactor, iss, hiss, sub, hsub, -, hspiffe, hfind⟩ := h
  split at hfind
  · next name entry hfound =>
    simp only [eq_ok] at hfind
    obtain ⟨routed, hrouted, rfl⟩ := hfind
    exact ⟨actor, iss, sub, name, routed, hactor, hiss, hsub, hspiffe, hfound, hrouted, rfl⟩
  · split at hfind <;> cases hfind

theorem validateJwtSvid_accepts {audience token : String} {alg : SvidAlg} {publicKey : Bytes}
    (halg : svidAlg issuer.entry.keyType = .ok alg)
    (hkey : env.publicKey issuer.location = .ok publicKey)
    (hpem : decodingKey env.pemOk publicKey alg = .ok publicKey)
    (hdecode : env.lib.decode token publicKey (svidValidation alg issuer.issuerId audience) now =
      some claims) (hsub : claims.strClaim "sub" = some sub) (hspiffe : isSpiffeId sub = true)
    (hmatch : spiffeIdMatchesTrustDomain sub issuer.entry = true) :
    validateJwtSvid env issuer audience token now = .ok ⟨sub, claims⟩ := by
  have hfilter : (claims.strClaim "sub").filter (fun sub => isSpiffeId sub &&
      spiffeIdMatchesTrustDomain sub issuer.entry) = some sub := by
    rw [hsub, Option.filter_some, hspiffe, hmatch]
    rfl
  simp only [validateJwtSvid, halg, hkey, Except.mapError, ok_bind, hpem, hdecode, orErr, hfilter]
  rfl

theorem validateBeforeDenyList_accepts (hheader : req.header = [some "true"])
    (huid : req.peer.uid = some uid) (haudience : Text.trim req.audience ≠ "")
    (hsvid : Text.trim req.svid ≠ "") (hclaims : unverifiedClaims codec req.svid = some claims)
    (hissuer : jwtValidationIssuer manager g uid claims = .ok issuer)
    (hvalid : validateJwtSvid env issuer req.audience req.svid now = .ok v)
    (htd : issuer.entry.labels.get "trust_domain" = some trustDomain) :
    validateBeforeDenyList manager g env req now = .ok (v, trustDomain) := by
  have htexts : Text.trim req.audience ≠ "" ∧ Text.trim req.svid ≠ "" := ⟨haudience, hsvid⟩
  simp only [validateBeforeDenyList, requireWorkloadHeader, ensure_pos hheader, ok_bind, huid,
    orErr, ensure_pos htexts, hclaims, hissuer, hvalid, htd]
  rfl

theorem validateJwtsvid_accepts {store : JwtRevocationStore} {decodeNow denyNow : Nat}
    {jti : String}
    (hbefore : validateBeforeDenyList manager g env req decodeNow = .ok (v, trustDomain))
    (hjti : v.claims.strClaim "jti" = some jti)
    (hrevoked : (store.isRevoked trustDomain jti denyNow).2 = false) :
    (validateJwtsvid manager g env store req decodeNow denyNow).2 = .ok v := by
  rcases hr : store.isRevoked trustDomain jti denyNow with ⟨_, _⟩
  rw [hr] at hrevoked
  cases hrevoked
  simp [validateJwtsvid, hbefore, rejectRevokedJwtsvid, hjti, hr]

theorem validateJwtsvid_ok {store : JwtRevocationStore} {decodeNow denyNow : Nat}
    (h : (validateJwtsvid manager g env store req decodeNow denyNow).2 = .ok v) :
    ∃ trustDomain jti, validateBeforeDenyList manager g env req decodeNow = .ok (v, trustDomain) ∧
      v.claims.strClaim "jti" = some jti ∧
      (store.isRevoked trustDomain jti denyNow).2 = false := by
  unfold validateJwtsvid at h
  cases hbefore : validateBeforeDenyList manager g env req decodeNow with
  | error e => simp [hbefore] at h
  | ok r =>
    obtain ⟨v', trustDomain⟩ := r
    simp only [hbefore, rejectRevokedJwtsvid] at h
    cases hjti : v'.claims.strClaim "jti" with
    | none => simp [hjti] at h
    | some jti =>
      simp only [hjti] at h
      rcases hrev : store.isRevoked trustDomain jti denyNow with ⟨_, b⟩
      cases b with
      | true => simp [hrev] at h
      | false =>
        simp only [hrev, Except.ok.injEq] at h
        subst h
        exact ⟨trustDomain, jti, rfl, hjti, by rw [hrev]⟩

theorem validateJwtsvid_store (manager : BackendManager) (g : Generation)
    (env : ValidationEnv codec) (store : JwtRevocationStore) (req : ValidateRequest)
    (decodeNow denyNow : Nat) :
    (validateJwtsvid manager g env store req decodeNow denyNow).1 = store ∨
      ∃ trustDomain jti, (validateJwtsvid manager g env store req decodeNow denyNow).1 =
        (store.isRevoked trustDomain jti denyNow).1 := by
  unfold validateJwtsvid
  cases hbefore : validateBeforeDenyList manager g env req decodeNow with
  | error e => exact .inl rfl
  | ok r =>
    obtain ⟨v, trustDomain⟩ := r
    cases hjti : v.claims.strClaim "jti" with
    | none =>
      left
      simp [rejectRevokedJwtsvid, hjti]
    | some jti =>
      right
      refine ⟨trustDomain, jti, ?_⟩
      rcases hrev : store.isRevoked trustDomain jti denyNow with ⟨_, b⟩
      cases b <;> simp [rejectRevokedJwtsvid, hjti, hrev]

/-! ### An ES256 issuer of `example.org` -/

def issuerEntry : KeyEntry where
  keyClass := .asymmetric
  keyType := some .ecdsaP256
  backend := "vault"
  engine := none
  path := "svid_issuer"
  publicPath := none
  writable := false
  missing := .error
  nixCache := none
  generate := none
  sealingPin := none
  labels := ⟨["svid_kind=jwt", "trust_domain=example.org"]⟩
  description := "JWT-SVID issuer"

def issuerCatalog : Catalog where
  backends := ⟨[("vault", ⟨.vault, "", [.transit], [], [], []⟩)], by decide⟩
  keys := ⟨[("svid.issuer", issuerEntry)], by decide⟩

end Basil.Svid
