import Basil.Svid

/-!
# JWT minting (`core/minter.rs`, `service/minting.rs`, `service/spiffe.rs`)

Two RPCs sign JWTs with an issuer key under the `mint` operation: `MintJWT`, whose caller names
the subject, and `FetchJWTSVID`, which templates it from the caller.
-/

namespace Basil.Minting

open Jwt Svid JsonValue

structure MintEnv (codec : JwsCodec) extends ValidationEnv codec where
  sign : Location → SvidAlg → String → Except BackendError Bytes
  jtiHash : Claims → String
  kid : Bytes → SvidAlg → String
  isP256 : Bytes → Bool
  isP384 : Bytes → Bool
  isRsa : Bytes → Bool
  parseJson : Bytes → Except String JsonValue

inductive GenericMintError where
  | reserved (claim : String)
  | backend (error : BackendError)
  deriving DecidableEq

def reservedDisplay (claim : String) : String :=
  "claims may not override the reserved claim `" ++ claim ++ "`"

def reservedGenericClaims : List String := ["iss", "iat", "exp", "jti", "sub", "nbf"]

def reservedSvidClaims : List String := ["iss", "iat", "exp", "jti", "sub", "nbf", "aud"]

def mergeMembers (reserved : List String) :
    Claims → List (String × JsonValue) → Except GenericMintError Claims
  | claims, [] => .ok claims
  | claims, (k, v) :: rest =>
      if k ∈ reserved then .error (.reserved k)
      else mergeMembers reserved (claims.insert k v) rest

def mergeExtras (claims : Claims) (extra : JsonValue) (reserved : List String) :
    Except GenericMintError Claims :=
  match extra with
  | .obj members => mergeMembers reserved claims members
  | .null => .ok claims
  | _ => .error (.reserved "<claims must be a JSON object>")

variable {codec : JwsCodec} (env : MintEnv codec)

def jwsAlgForPublicKey (publicKey : Bytes) : Except BackendError SvidAlg :=
  if publicKey.length = 32 then .ok .edDsa
  else if env.isP256 publicKey then .ok .es256
  else if env.isP384 publicKey then .ok .es384
  else if env.isRsa publicKey then .ok .rs256
  else .error (.protocol ("JWT issuer public key must be Ed25519 raw public bytes, " ++
    "ECDSA P-256/P-384 PEM/DER, or RSA PEM/DER, got " ++ toString publicKey.length ++ " bytes"))

def signJwtClaims (location : Location) (alg : SvidAlg) (claims : Claims) :
    Except GenericMintError String := do
  let publicKey ← (env.publicKey location).mapError .backend
  let header := codec.encodeHeader alg (env.kid publicKey alg)
  let payload := codec.encodeClaims claims
  let signature ← (env.sign location alg (signingInput header payload)).mapError .backend
  return assemble header payload (codec.encodeSig signature)

def stampClaims (base : Claims) (now : Nat) (expiresIn : Option Nat) : Claims :=
  let issued : Claims := base.insert "iat" (num now)
  let claims : Claims := match expiresIn with
    | some secs => issued.insert "exp" (num (satAddU64 now secs))
    | none => issued
  claims.insert "jti" (str (env.jtiHash claims))

def genericClaims (issuerName subject : String) (now : Nat) (expiresIn : Option Nat) : Claims :=
  let base : Claims := ((∅ : Claims).insert "iss" (str issuerName)).insert "sub"
    (str subject)
  stampClaims env base now expiresIn

def svidClaims (issuerId subject audience : String) (now : Nat) (expiresIn : Option Nat) : Claims :=
  let base : Claims := (((∅ : Claims).insert "iss" (str issuerId)).insert "sub"
    (str subject)).insert "aud" (str audience)
  stampClaims env base now expiresIn

def mintGeneric (location : Location) (issuerName subject : String) (expiresIn : Option Nat)
    (extra : JsonValue) (now : Nat) : Except GenericMintError String := do
  let publicKey ← (env.publicKey location).mapError .backend
  let alg ← (jwsAlgForPublicKey env publicKey).mapError .backend
  let claims ← mergeExtras (genericClaims env issuerName subject now expiresIn) extra
    reservedGenericClaims
  signJwtClaims env location alg claims

def mintSvid (location : Location) (issuerId : String) (alg : SvidAlg) (subject audience : String)
    (expiresIn : Option Nat) (extra : JsonValue) (now : Nat) : Except GenericMintError String := do
  let claims ← mergeExtras (svidClaims env issuerId subject audience now expiresIn) extra
    reservedSvidClaims
  signJwtClaims env location alg claims

/-! ### `MintJWT` -/

structure Ttl where
  seconds : Int
  nanos : Int
  deriving DecidableEq

def ttlSeconds (op : String) : Option Ttl → Except Status (Option Nat)
  | none => .ok none
  | some ttl => do
      ensure (0 ≤ ttl.seconds) (invalidRequest op "ttl must be non-negative")
      ensure (0 ≤ ttl.nanos ∧ ttl.nanos < 1000000000) (invalidRequest op "ttl nanos is out of range")
      let rounded := ttl.seconds.toNat + if 0 < ttl.nanos then 1 else 0
      ensure (rounded ≤ u64Max) (invalidRequest op "ttl too large")
      return some rounded

def claimsJsonBytes (bytes : Bytes) (op field : String) (allowEmpty : Bool) :
    Except Status JsonValue :=
  if bytes = [] then
    if allowEmpty then .ok (.obj []) else .error (invalidRequest op (field ++ " is required"))
  else
    match env.parseJson bytes with
    | .error e => .error (invalidRequest op (field ++ " must be valid JSON: " ++ e))
    | .ok (.obj members) => .ok (.obj members)
    | .ok _ => .error (invalidRequest op (field ++ " must be a JSON object"))

structure MintJwtRequest where
  keyId : String
  subject : Option String
  ttl : Option Ttl
  extraClaimsJson : Bytes

structure CredentialResponse where
  token : String
  expiresAt : Option Nat

def credentialResponse (token : String) (ttlSecs : Option Nat) (now : Nat) :
    Except Status CredentialResponse :=
  match ttlSecs with
  | none => .ok ⟨token, none⟩
  | some ttl => do
      ensure (((now + ttl : Nat) : Int) ≤ i64Max) (internalStatus "mint" "expires_at overflow")
      return ⟨token, some (now + ttl)⟩

def resolveStatus (op : String) : ResolveError → Status
  | .unknownKey _ => unauthorized op
  | .unknownBackend key backend => internalStatus op (ResolveError.unknownBackend key backend).display

def clientMintTexts : List String :=
  ["invalid subject ", "invalid nats jwt ", "invalid account signing key",
    "invalid operator signing key", "invalid system account nkey", "unsupported issuer role"]

def genericMintStatus (op : String) : GenericMintError → Status
  | .reserved claim => invalidRequest op (reservedDisplay claim)
  | .backend (.protocol message) =>
      if clientMintTexts.any fun lead => (Text.stripLead lead message).isSome then
        invalidRequest op message
      else backendStatus op (.protocol message)
  | .backend error => backendStatus op error

/-- `mint_jwt`; the minter and the response read the clock one after the other. -/
def mintJwt (manager : BackendManager) (g : Generation) (ctx : RequestContext)
    (req : MintJwtRequest) (mintNow respondNow : Nat) : Except Status CredentialResponse := do
  let _ ← authorizeInGeneration g ctx .mint req.keyId
  let ttlSecs ← ttlSeconds "mint" req.ttl
  let claims ← claimsJsonBytes env req.extraClaimsJson "mint" "extra_claims_json" true
  let routed ← (manager.resolve req.keyId).mapError (resolveStatus "mint")
  let subject ← orErr req.subject
    (invalidRequest "mint" "mint_jwt generic requires subject (the JWT sub)")
  let token ← (mintGeneric env routed.location req.keyId subject ttlSecs claims mintNow).mapError
    (genericMintStatus "mint")
  credentialResponse token ttlSecs respondNow

/-! ### `FetchJWTSVID` -/

structure JwtIssuer where
  name : String
  location : Location
  entry : KeyEntry

def issuerCandidates (catalog : Catalog) (requested : String) : List (String × KeyEntry) :=
  catalog.keys.entries.filter fun e =>
    isJwtSvidIssuer e.2 && (decide (requested = "") || spiffeIdMatchesTrustDomain requested e.2)

def jwtIssuer (manager : BackendManager) (g : Generation) (uid : Nat) (requested : String) :
    Except Status JwtIssuer := do
  let actor ← (g.pdp.resolveUnixActor uid).mapError fun _ =>
    workloadStatus .permissionDenied "no configured subject for FetchJWTSVID caller"
  let candidates := issuerCandidates g.catalog requested
  match candidates.find? fun e => g.pdp.allows actor .mint e.1 with
  | some (name, entry) =>
      let routed ← (manager.resolve name).mapError fun e => workloadStatus .internal e.display
      return ⟨name, routed.location, entry⟩
  | none =>
      if candidates.isEmpty then
        throw (workloadStatus .permissionDenied "no JWT-SVID issuer matches the requested SPIFFE ID")
      else throw (workloadStatus .permissionDenied "not authorized to mint a JWT-SVID")

/-- The caller's SPIFFE id: its configured user name, else its uid. -/
def templatedSpiffeId (g : Generation) (uid : Nat) (entry : KeyEntry) : Option String :=
  (entry.labels.get "trust_domain").map fun trustDomain =>
    "spiffe://" ++ trustDomain ++ "/" ++ (g.config.names.users.get? uid).getD (toString uid)

def requestedOrTemplatedSpiffeId (g : Generation) (uid : Nat) (requested : String)
    (entry : KeyEntry) : Except Status String := do
  let id ← orErr (templatedSpiffeId g uid entry)
    (workloadStatus .internal "JWT-SVID issuer has no trust_domain label")
  ensure (isSpiffeId id = true) (workloadStatus .internal "templated SPIFFE ID is malformed")
  if requested = "" ∨ requested = id then return id
  else if isSpiffeId requested && spiffeIdMatchesTrustDomain requested entry then
    throw (workloadStatus .permissionDenied "requested SPIFFE ID is outside the caller identity")
  else throw (invalidArgument "requested SPIFFE ID is malformed or out of trust domain")

structure FetchRequest where
  header : List (Option String)
  peer : PeerInfo
  audience : List String
  spiffeId : String

structure Jwtsvid where
  spiffeId : String
  svid : String

def mintStatus : GenericMintError → Status
  | .reserved claim => workloadStatus .invalidArgument (reservedDisplay claim)
  | .backend _ => workloadStatus .unavailable "backend unavailable"

/-- One token per audience, each stamped at its own clock reading. -/
def mintSvids (issuer : JwtIssuer) (alg : SvidAlg) (spiffeId : String) :
    List (String × Nat) → Except Status (List Jwtsvid)
  | [] => .ok []
  | (audience, now) :: rest => do
      let token ← (mintSvid env issuer.location (issuerId issuer.name issuer.entry) alg spiffeId
        audience (some 300) .null now).mapError mintStatus
      let svids ← mintSvids issuer alg spiffeId rest
      return ⟨spiffeId, token⟩ :: svids

def fetchJwtsvid (manager : BackendManager) (g : Generation) (req : FetchRequest)
    (clock : Nat → Nat) : Except Status (List Jwtsvid) := do
  requireWorkloadHeader req.header
  let uid ← orErr req.peer.uid
    (workloadStatus .unauthenticated "missing peer credentials for FetchJWTSVID")
  ensure (req.audience ≠ [] ∧ req.audience.all (fun aud => decide (Text.trim aud ≠ "")) = true)
    (invalidArgument "FetchJWTSVID requires a non-empty audience")
  ensure (req.spiffeId = "" ∨ isSpiffeId req.spiffeId = true)
    (invalidArgument "requested SPIFFE ID is malformed")
  let issuer ← jwtIssuer manager g uid req.spiffeId
  let spiffeId ← requestedOrTemplatedSpiffeId g uid req.spiffeId issuer.entry
  let alg ← svidAlg issuer.entry.keyType
  mintSvids env issuer alg spiffeId (req.audience.zipIdx.map fun a => (a.1, clock a.2))

/-! ### What a minted token carries -/

variable {claims : Claims} {name token : String} {extra : JsonValue} {now : Nat}
  {expiresIn : Option Nat} {location : Location} {alg : SvidAlg} {manager : BackendManager}
  {g : Generation}

theorem mergeMembers_lookup {reserved : List String} {members : List (String × JsonValue)}
    {merged : Claims} (h : mergeMembers reserved claims members = .ok merged)
    (hname : name ∈ reserved) : merged.lookup name = claims.lookup name := by
  induction members generalizing claims with
  | nil =>
    cases h
    rfl
  | cons member members ih =>
    obtain ⟨k, _⟩ := member
    rw [mergeMembers] at h
    split at h
    · cases h
    · next hk =>
      have hne : name ≠ k := fun heq => hk (heq ▸ hname)
      rw [ih h, Table.lookup_insert_eq, if_neg hne]

theorem mergeExtras_lookup {reserved : List String} {merged : Claims}
    (h : mergeExtras claims extra reserved = .ok merged) (hname : name ∈ reserved) :
    merged.lookup name = claims.lookup name := by
  cases extra with
  | obj => exact mergeMembers_lookup h hname
  | null =>
    cases h
    rfl
  | _ => cases h

theorem stampClaims_lookup {base : Claims} (hiat : name ≠ "iat") (hexp : name ≠ "exp")
    (hjti : name ≠ "jti") :
    (stampClaims env base now expiresIn).lookup name = base.lookup name := by
  cases expiresIn with
  | none => simp only [stampClaims, Table.lookup_insert_eq, if_neg hjti, if_neg hiat]
  | some secs => simp [stampClaims, Table.lookup_insert_eq, if_neg hjti, if_neg hexp, if_neg hiat]

variable {env}

theorem signJwtClaims_ok (h : signJwtClaims env location alg claims = .ok token) :
    ∃ kid sig, env.sign location alg
        (signingInput (codec.encodeHeader alg kid) (codec.encodeClaims claims)) = .ok sig ∧
      token = assemble (codec.encodeHeader alg kid) (codec.encodeClaims claims)
        (codec.encodeSig sig) := by
  simp only [signJwtClaims, eq_ok] at h
  obtain ⟨publicKey, -, sig, hsig, rfl⟩ := h
  exact ⟨env.kid publicKey alg, sig, hsig, rfl⟩

theorem mintGeneric_ok {issuerName subject : String}
    (h : mintGeneric env location issuerName subject expiresIn extra now = .ok token) :
    ∃ publicKey alg claims kid sig, env.publicKey location = .ok publicKey ∧
      jwsAlgForPublicKey env publicKey = .ok alg ∧
      claims.strClaim "iss" = some issuerName ∧ claims.strClaim "sub" = some subject ∧
      env.sign location alg
        (signingInput (codec.encodeHeader alg kid) (codec.encodeClaims claims)) = .ok sig ∧
      token = assemble (codec.encodeHeader alg kid) (codec.encodeClaims claims)
        (codec.encodeSig sig) := by
  simp only [mintGeneric, eq_ok] at h
  obtain ⟨publicKey, hkey, alg, halg, claims, hclaims, hsign⟩ := h
  obtain ⟨kid, sig, hsig, htoken⟩ := signJwtClaims_ok hsign
  have hiss : claims.strClaim "iss" = some issuerName := by
    have hlookup := mergeExtras_lookup hclaims (show "iss" ∈ reservedGenericClaims by decide)
    rw [genericClaims, stampClaims_lookup env (by decide) (by decide) (by decide)] at hlookup
    rw [Claims.strClaim, hlookup]
    rfl
  have hsub : claims.strClaim "sub" = some subject := by
    have hlookup := mergeExtras_lookup hclaims (show "sub" ∈ reservedGenericClaims by decide)
    rw [genericClaims, stampClaims_lookup env (by decide) (by decide) (by decide)] at hlookup
    rw [Claims.strClaim, hlookup]
    rfl
  exact ⟨publicKey, alg, claims, kid, sig, hkey, halg, hiss, hsub, hsig, htoken⟩

theorem mintSvid_sub {issuerId subject audience : String}
    (h : mintSvid env location issuerId alg subject audience expiresIn extra now = .ok token) :
    ∃ claims, unverifiedClaims codec token = some claims ∧
      claims.strClaim "sub" = some subject := by
  simp only [mintSvid, bind_eq_ok] at h
  obtain ⟨claims, hclaims, hsign⟩ := h
  obtain ⟨kid, sig, -, rfl⟩ := signJwtClaims_ok hsign
  refine ⟨claims, unverifiedClaims_assemble codec alg kid claims sig, ?_⟩
  have hlookup := mergeExtras_lookup hclaims (show "sub" ∈ reservedSvidClaims by decide)
  rw [svidClaims, stampClaims_lookup env (by decide) (by decide) (by decide)] at hlookup
  rw [Claims.strClaim, hlookup]
  rfl

theorem mintJwt_ok {ctx : RequestContext} {req : MintJwtRequest} {mintNow respondNow : Nat}
    {resp : CredentialResponse} (h : mintJwt env manager g ctx req mintNow respondNow = .ok resp) :
    ∃ routed subject ttlSecs extra, manager.resolve req.keyId = .ok routed ∧
      mintGeneric env routed.location req.keyId subject ttlSecs extra mintNow = .ok resp.token := by
  simp only [mintJwt, eq_ok] at h
  obtain ⟨-, -, ttlSecs, -, extra, -, routed, hrouted, subject, -, token, hmint, hresp⟩ := h
  refine ⟨routed, subject, ttlSecs, extra, hrouted, ?_⟩
  have htoken : resp.token = token := by
    cases ttlSecs with
    | none =>
      cases hresp
      rfl
    | some ttl =>
      simp only [credentialResponse, eq_ok] at hresp
      obtain ⟨-, -, rfl⟩ := hresp
      rfl
  rw [htoken]
  exact hmint

theorem mintSvids_mem {issuer : JwtIssuer} {spiffeId : String} {audiences : List (String × Nat)}
    {svids : List Jwtsvid} {svid : Jwtsvid}
    (h : mintSvids env issuer alg spiffeId audiences = .ok svids) (hmem : svid ∈ svids) :
    ∃ claims, unverifiedClaims codec svid.svid = some claims ∧
      claims.strClaim "sub" = some spiffeId := by
  induction audiences generalizing svids with
  | nil =>
    cases h
    cases hmem
  | cons a audiences ih =>
    simp only [mintSvids, eq_ok] at h
    obtain ⟨_, htoken, _, hrest, rfl⟩ := h
    rcases List.mem_cons.mp hmem with rfl | hmem
    · exact mintSvid_sub htoken
    · exact ih hrest hmem

theorem jwtIssuer_ok {uid : Nat} {requested : String} {issuer : JwtIssuer}
    (h : jwtIssuer manager g uid requested = .ok issuer) :
    g.catalog.keys.get? issuer.name = some issuer.entry := by
  simp only [jwtIssuer, bind_eq_ok] at h
  obtain ⟨_, -, hfind⟩ := h
  split at hfind
  · next name entry hfound =>
    simp only [eq_ok] at hfind
    obtain ⟨_, -, rfl⟩ := hfind
    have hmem := List.mem_of_find?_eq_some hfound
    exact OrdMap.get?_eq_some_iff.mpr (List.mem_filter.mp hmem).1
  · split at hfind <;> cases hfind

theorem requestedOrTemplatedSpiffeId_ok {uid : Nat} {requested id : String} {entry : KeyEntry}
    (h : requestedOrTemplatedSpiffeId g uid requested entry = .ok id) :
    templatedSpiffeId g uid entry = some id := by
  simp only [requestedOrTemplatedSpiffeId, eq_ok] at h
  obtain ⟨_, hid, -, -, h⟩ := h
  split at h
  · cases h
    exact hid
  · split at h <;> cases h

theorem fetchJwtsvid_sub {req : FetchRequest} {clock : Nat → Nat} {svids : List Jwtsvid}
    {svid : Jwtsvid} (h : fetchJwtsvid env manager g req clock = .ok svids) (hmem : svid ∈ svids) :
    ∃ uid issuer sub claims, req.peer.uid = some uid ∧
      jwtIssuer manager g uid req.spiffeId = .ok issuer ∧
      templatedSpiffeId g uid issuer.entry = some sub ∧
      unverifiedClaims codec svid.svid = some claims ∧ claims.strClaim "sub" = some sub := by
  simp only [fetchJwtsvid, eq_ok] at h
  obtain ⟨-, -, uid, huid, -, -, -, -, issuer, hissuer, sub, hsub, _, -, hmint⟩ := h
  obtain ⟨claims, hclaims, hclaim⟩ := mintSvids_mem hmint hmem
  exact ⟨uid, issuer, sub, claims, huid, hissuer, requestedOrTemplatedSpiffeId_ok hsub, hclaims,
    hclaim⟩

end Basil.Minting
