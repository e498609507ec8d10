import Basil.Loader
import Basil.Minting
import Basil.RevocationRun

/-!
# What a `mint` grant on an issuer key can name

`Confined` says that every accepted token a caller obtains through its grant names the caller
itself.
-/

namespace Basil.Minting

open Jwt Svid Revocation

variable {codec : JwsCodec}

def audJson : Bytes := [123, 34, 97, 117, 100, 34, 58, 34, 118, 97, 117, 108, 116, 34, 125]

/-- What the minter relies on: a backend signs with the key whose public half it
reports, a signature verifies under no other key, the library parses the keys the
broker's decoders accept, and `serde_json` reads an object with one string member. -/
structure FaithfulSigning (env : MintEnv codec) : Prop where
  signs : ∀ location publicKey alg input, env.publicKey location = .ok publicKey →
    jwsAlgForPublicKey env publicKey = .ok alg →
    ∃ sig, env.sign location alg input = .ok sig ∧ env.lib.verify alg publicKey input sig = true
  binds : ∀ location publicKey alg input sig other, env.publicKey location = .ok publicKey →
    env.sign location alg input = .ok sig → env.lib.verify alg other input sig = true →
    other = publicKey
  parses : ∀ publicKey alg, jwsAlgForPublicKey env publicKey = .ok alg →
    env.pemOk alg publicKey = true
  json : env.parseJson audJson = .ok (.obj [("aud", .str "vault")])

inductive Obtains (env : MintEnv codec) (manager : BackendManager) (g : Generation)
    (ctx : RequestContext) (key : String) : String → Prop
  | mintJwt (req : MintJwtRequest) (mintNow respondNow : Nat) (resp : CredentialResponse)
      (hkey : req.keyId = key)
      (hmint : mintJwt env manager g ctx req mintNow respondNow = .ok resp) :
      Obtains env manager g ctx key resp.token
  | fetch (req : FetchRequest) (clock : Nat → Nat) (svids : List Jwtsvid) (svid : Jwtsvid)
      (uid : Nat) (issuer : JwtIssuer) (hpeer : req.peer = ctx.peer) (huid : ctx.peer.uid = some uid)
      (hissuer : jwtIssuer manager g uid req.spiffeId = .ok issuer) (hkey : issuer.name = key)
      (hfetch : fetchJwtsvid env manager g req clock = .ok svids) (hmem : svid ∈ svids) :
      Obtains env manager g ctx key svid.svid

def Confined (env : MintEnv codec) (manager : BackendManager) (g : Generation)
    (ctx : RequestContext) (uid : Nat) (key : String) (entry : KeyEntry) : Prop :=
  ∀ token, Obtains env manager g ctx key token →
    ∀ (req : ValidateRequest) (store : JwtRevocationStore) (decodeNow denyNow : Nat)
      (v : ValidJwtSvid), req.svid = token →
      (validateJwtsvid manager g env.toValidationEnv store req decodeNow denyNow).2 = .ok v →
      templatedSpiffeId g uid entry = some v.spiffeId

def NameValidates (env : MintEnv codec) (manager : BackendManager) (g : Generation)
    (key : String) : Prop :=
  ∃ uid actor sub name entry routed keyRouted publicKey alg,
    g.pdp.resolveUnixActor uid = .ok actor ∧ isSpiffeId sub = true ∧
    (validationCandidates g.catalog key sub).find? (fun e => g.pdp.allows actor .validate e.1) =
      some (name, entry) ∧
    manager.resolve name = .ok routed ∧ manager.resolve key = .ok keyRouted ∧
    env.publicKey routed.location = .ok publicKey ∧
    env.publicKey keyRouted.location = .ok publicKey ∧
    jwsAlgForPublicKey env publicKey = .ok alg ∧ svidAlg entry.keyType = .ok alg

variable {env : MintEnv codec} {manager : BackendManager} {g : Generation} {ctx : RequestContext}
  {uid : Nat} {key : String} {entry : KeyEntry}

/-! ### Subjects that are not the caller's -/

variable {sub : String} {publicKey : Bytes} {alg : SvidAlg} {actor : AuthenticatedActor}

theorem spiffeParts_append {trustDomain path : String}
    (h : spiffeParts sub = some (trustDomain, path)) (tail : String) :
    spiffeParts (sub ++ tail) = some (trustDomain, path ++ tail) := by
  simp only [spiffeParts, Option.bind_eq_some_iff] at h
  obtain ⟨rest, hstrip, hsplit⟩ := h
  obtain ⟨hchars, hfree⟩ := Text.splitOnce_eq_some hsplit
  have hsub : sub = "spiffe://" ++ rest := Text.stripLead_eq_some.mp hstrip
  have hrest : rest = trustDomain ++ String.ofList ['/'] ++ path := by
    rw [← String.toList_inj, hchars]
    simp
  have htext : sub ++ tail =
      "spiffe://" ++ (trustDomain ++ String.ofList ['/'] ++ (path ++ tail)) := by
    rw [hsub, hrest]
    simp [String.append_assoc]
  rw [spiffeParts, htext, Text.stripLead_append, Option.bind_some, Text.splitOnce_append hfree]

theorem spiffeParts_of_isSpiffeId (hsub : isSpiffeId sub = true) :
    ∃ trustDomain path, spiffeParts sub = some (trustDomain, path) ∧
      isValidSpiffePart trustDomain = true ∧ isValidSpiffePart path = true := by
  cases hparts : spiffeParts sub with
  | none => simp [isSpiffeId, hparts] at hsub
  | some p =>
    simp only [isSpiffeId, hparts, Option.any_some, Bool.and_eq_true] at hsub
    exact ⟨p.1, p.2, rfl, hsub⟩

theorem matches_append {tail : String} (hsub : isSpiffeId sub = true) (entry : KeyEntry) :
    spiffeIdMatchesTrustDomain (sub ++ tail) entry = spiffeIdMatchesTrustDomain sub entry := by
  obtain ⟨_, path, hparts, -, hvalid⟩ := spiffeParts_of_isSpiffeId hsub
  have hpath : path ≠ "" := (of_decide_eq_true hvalid).1
  have hpath' : path ++ tail ≠ "" := by
    intro h
    rw [String.append_eq_empty_iff] at h
    exact hpath h.1
  simp only [spiffeIdMatchesTrustDomain, hparts, spiffeParts_append hparts tail, Option.any_some,
    decide_eq_true hpath, decide_eq_true hpath']

theorem isSpiffeId_append (hsub : isSpiffeId sub = true) : isSpiffeId (sub ++ "x") = true := by
  obtain ⟨_, path, hparts, hdomain, hpath⟩ := spiffeParts_of_isSpiffeId hsub
  have hx : isValidSpiffePart (path ++ "x") = true := by
    simp only [isValidSpiffePart, decide_eq_true_eq] at hpath ⊢
    refine ⟨?_, ?_⟩
    · intro h
      rw [String.append_eq_empty_iff] at h
      exact hpath.1 h.1
    · have hclean : Text.isWhitespace 'x' = false := by decide
      simp [String.toList_append, hpath.2, hclean]
  simp [isSpiffeId, spiffeParts_append hparts "x", hdomain, hx]

theorem exists_foreign_subject (g : Generation) (iss : String) (hsub : isSpiffeId sub = true)
    (own : Option String) :
    ∃ sub', own ≠ some sub' ∧ isSpiffeId sub' = true ∧
      validationCandidates g.catalog iss sub' = validationCandidates g.catalog iss sub := by
  by_cases hown : own = some sub
  · refine ⟨sub ++ "x", ?_, isSpiffeId_append hsub, ?_⟩
    · intro h
      have heq : sub = sub ++ "x" := by
        rw [hown] at h
        exact Option.some.inj h
      have hlength := congrArg (fun s => s.toList.length) heq
      simp at hlength
    · simp [validationCandidates, matches_append hsub]
  · exact ⟨sub, hown, hsub, rfl⟩

/-! ### The request that names someone else -/

def foreignClaims (env : MintEnv codec) (key sub : String) : Claims :=
  (genericClaims env key sub 0 (some 300)).insert "aud" (JsonValue.str "vault")

def foreignToken (env : MintEnv codec) (key sub : String) (alg : SvidAlg) (kid : String)
    (sig : Bytes) : String :=
  assemble (codec.encodeHeader alg kid) (codec.encodeClaims (foreignClaims env key sub))
    (codec.encodeSig sig)

theorem foreignClaims_accepted (env : MintEnv codec) (key sub : String) (alg : SvidAlg) :
    (svidValidation alg key "vault").accepts (foreignClaims env key sub) 0 = true := by
  have hexp : expClaim (foreignClaims env key sub) = some 300 := rfl
  have hsub : Claims.strClaim (foreignClaims env key sub) "sub" = some sub := rfl
  have hiss : (foreignClaims env key sub).lookup "iss" = some (.str key) := rfl
  have haud : (foreignClaims env key sub).lookup "aud" = some (.str "vault") := rfl
  simp [Validation.accepts, svidValidation, Validation.new, Validation.expOk, Validation.issOk,
    Validation.audOk, specClaimPresent, hexp, hsub, hiss, haud, strings]

section Faithful

variable (hfaith : FaithfulSigning env)
include hfaith

theorem mintGeneric_foreign (key : String) {location : Location}
    (hkey : env.publicKey location = .ok publicKey)
    (halg : jwsAlgForPublicKey env publicKey = .ok alg) (sub : String) :
    ∃ kid sig, mintGeneric env location key sub (some 300) (.obj [("aud", .str "vault")]) 0 =
        .ok (foreignToken env key sub alg kid sig) ∧
      env.lib.verify alg publicKey (signingInput (codec.encodeHeader alg kid)
        (codec.encodeClaims (foreignClaims env key sub))) sig = true := by
  have hmerge : mergeExtras (genericClaims env key sub 0 (some 300)) (.obj [("aud", .str "vault")])
      reservedGenericClaims = .ok (foreignClaims env key sub) := by
    have hfree : "aud" ∉ reservedGenericClaims := by decide
    simp [mergeExtras, mergeMembers, if_neg hfree, foreignClaims]
  obtain ⟨sig, hsign, hverify⟩ := hfaith.signs location publicKey alg
    (signingInput (codec.encodeHeader alg (env.kid publicKey alg))
      (codec.encodeClaims (foreignClaims env key sub))) hkey halg
  refine ⟨env.kid publicKey alg, sig, ?_, hverify⟩
  simp only [mintGeneric, signJwtClaims, hkey, halg, mapError_ok, ok_bind, hmerge, hsign]
  rfl

theorem mintJwt_foreign (hmint : authorizeInGeneration g ctx .mint key = .ok actor)
    {routed : Routed} (hrouted : manager.resolve key = .ok routed) {token : String}
    (htoken : mintGeneric env routed.location key sub (some 300) (.obj [("aud", .str "vault")]) 0 =
      .ok token) : Obtains env manager g ctx key token := by
  have hclaims : claimsJsonBytes env audJson "mint" "extra_claims_json" true =
      .ok (.obj [("aud", .str "vault")]) := by
    have hne : audJson ≠ [] := by decide
    simp [claimsJsonBytes, if_neg hne, hfaith.json]
  have hresp : mintJwt env manager g ctx ⟨key, some sub, some ⟨300, 0⟩, audJson⟩ 0 0 =
      .ok ⟨token, some 300⟩ := by
    have httl : ttlSeconds "mint" (some ⟨300, 0⟩) = .ok (some 300) := by decide
    have hcredential : credentialResponse token (some 300) 0 = .ok ⟨token, some 300⟩ := rfl
    simp [mintJwt, hmint, httl, hclaims, hrouted, htoken, hcredential]
  exact .mintJwt _ 0 0 _ rfl hresp

theorem decodingKey_faithful {keyType : Option KeyAlgorithm}
    (halg : jwsAlgForPublicKey env publicKey = .ok alg) (hsvidAlg : svidAlg keyType = .ok alg) :
    decodingKey env.pemOk publicKey alg = .ok publicKey := by
  have hparses := hfaith.parses publicKey alg halg
  cases alg with
  | edDsa =>
    cases keyType with
    | none => simp [svidAlg] at hsvidAlg
    | some k => cases k <;> simp [svidAlg] at hsvidAlg
  | rs256 | es256 | es384 => simp [decodingKey, ensure, hparses]

def foreignRequest (uid : Nat) (token : String) : ValidateRequest :=
  ⟨[some "true"], ⟨none, some uid, none⟩, "vault", token⟩

theorem twin_accepts {name kid : String} {routed : Routed} {sig : Bytes}
    (hactor : g.pdp.resolveUnixActor uid = .ok actor) (hspiffe : isSpiffeId sub = true)
    (hfind : (validationCandidates g.catalog key sub).find?
      (fun e => g.pdp.allows actor .validate e.1) = some (name, entry))
    (hrouted : manager.resolve name = .ok routed)
    (hpublic : env.publicKey routed.location = .ok publicKey)
    (halg : jwsAlgForPublicKey env publicKey = .ok alg) (hsvidAlg : svidAlg entry.keyType = .ok alg)
    (hverify : env.lib.verify alg publicKey (signingInput (codec.encodeHeader alg kid)
      (codec.encodeClaims (foreignClaims env key sub))) sig = true) :
    (validateJwtsvid manager g env.toValidationEnv .default
      (foreignRequest uid (foreignToken env key sub alg kid sig)) 0 0).2 =
        .ok ⟨sub, foreignClaims env key sub⟩ := by
  have hmember := (List.mem_filter.mp (List.mem_of_find?_eq_some hfind)).2
  simp only [Bool.and_eq_true, decide_eq_true_eq] at hmember
  obtain ⟨⟨hissuer, hmatch⟩, hid⟩ := hmember
  have hselect : jwtValidationIssuer manager g uid (foreignClaims env key sub) =
      .ok ⟨routed.location, issuerId name entry, entry⟩ := by
    have hiss : (foreignClaims env key sub).strClaim "iss" = some key := rfl
    have hsub : (foreignClaims env key sub).strClaim "sub" = some sub := rfl
    simp only [jwtValidationIssuer, hactor, mapError_ok, ok_bind, hiss, hsub, orErr,
      ensure_pos hspiffe, hfind, hrouted]
    rfl
  have hdecode : env.lib.decode (foreignToken env key sub alg kid sig) publicKey
      (svidValidation alg (issuerId name entry) "vault") 0 = some (foreignClaims env key sub) := by
    rw [hid]
    exact (env.lib.decode_assemble alg kid _ _ sig publicKey _ 0).mpr
      ⟨rfl, rfl, hverify, foreignClaims_accepted env key sub alg⟩
  have hvalid : validateJwtSvid env.toValidationEnv
      ⟨routed.location, issuerId name entry, entry⟩ "vault" (foreignToken env key sub alg kid sig) 0 =
        .ok ⟨sub, foreignClaims env key sub⟩ :=
    validateJwtSvid_accepts hsvidAlg hpublic (decodingKey_faithful hfaith halg hsvidAlg) hdecode rfl
      hspiffe hmatch
  obtain ⟨trustDomain, htd⟩ : ∃ trustDomain, entry.labels.get "trust_domain" = some trustDomain := by
    simp only [isJwtSvidIssuer, Bool.and_eq_true] at hissuer
    exact Option.isSome_iff_exists.mp hissuer.1.2
  have haudience : Text.trim "vault" ≠ "" := by decide
  exact validateJwtsvid_accepts (validateBeforeDenyList_accepts rfl rfl haudience
    (trim_assemble _ _ _) (unverifiedClaims_assemble codec alg kid _ sig) hselect hvalid htd) rfl rfl

theorem not_confined (hmint : authorizeInGeneration g ctx .mint key = .ok actor)
    (hname : NameValidates env manager g key) : ¬ Confined env manager g ctx uid key entry := by
  intro hconfined
  obtain ⟨_, _, _, _, _, _, _, _, _, hactor, hspiffe, hfind,
    hrouted, hkeyRouted, hpublic, hkeyPublic, halg, hsvidAlg⟩ := hname
  obtain ⟨sub', hforeign, hspiffe', hcandidates⟩ :=
    exists_foreign_subject g key hspiffe (templatedSpiffeId g uid entry)
  rw [← hcandidates] at hfind
  obtain ⟨_, _, htoken, hverify⟩ := mintGeneric_foreign hfaith key hkeyPublic halg sub'
  have hobtains := mintJwt_foreign hfaith hmint hkeyRouted htoken
  have haccepted := twin_accepts hfaith hactor hspiffe' hfind hrouted hpublic halg hsvidAlg hverify
  exact hforeign (hconfined _ hobtains _ .default 0 0 _ rfl haccepted)

/-! ### The condition -/

theorem nameValidates_of_accepted {req : MintJwtRequest} {mintNow respondNow : Nat}
    {resp : CredentialResponse} (hkey : req.keyId = key)
    (hmint : mintJwt env manager g ctx req mintNow respondNow = .ok resp) {vreq : ValidateRequest}
    {store : JwtRevocationStore} {decodeNow denyNow : Nat} {v : ValidJwtSvid}
    (hsvid : vreq.svid = resp.token)
    (haccepted : (validateJwtsvid manager g env.toValidationEnv store vreq decodeNow denyNow).2 =
      .ok v) : NameValidates env manager g key := by
  obtain ⟨keyRouted, _, _, _, hkeyRouted, hgeneric⟩ := mintJwt_ok hmint
  obtain ⟨publicKey, alg, _, _, sig, hpublic, halg, hiss, _, hsign, htoken⟩ :=
    mintGeneric_ok hgeneric
  obtain ⟨_, _, hbefore, -, -⟩ := validateJwtsvid_ok haccepted
  obtain ⟨uid', issuer, -, hissuer, hvalid⟩ := validateBeforeDenyList_issuer hbefore
  obtain ⟨alg', publicKey', halg', hpublic', hdecode, -⟩ := validateJwtSvid_ok hvalid
  rw [hsvid, htoken, env.lib.decode_assemble] at hdecode
  obtain ⟨hclaims, hsame, hverify, -⟩ := hdecode
  have hsameAlg : alg' = alg := hsame
  have hsameKey : publicKey' = publicKey :=
    hfaith.binds keyRouted.location publicKey alg _ sig publicKey' hpublic hsign hverify
  rw [hclaims] at hissuer
  obtain ⟨actor, _, sub, name, routed, hactor, hiss', _, hspiffe, hfind, hrouted, hlocation⟩ :=
    jwtValidationIssuer_ok hissuer
  rw [hiss, hkey] at hiss'
  cases hiss'
  rw [hkey] at hkeyRouted
  rw [hlocation, hsameKey] at hpublic'
  rw [hsameAlg] at halg'
  exact ⟨uid', actor, sub, name, issuer.entry, routed, keyRouted, publicKey, alg, hactor, hspiffe,
    hfind, hrouted, hkeyRouted, hpublic', hpublic, halg, halg'⟩

end Faithful

theorem mint_confined_iff (hfaith : FaithfulSigning env) {actor : AuthenticatedActor}
    (hmint : authorizeInGeneration g ctx .mint key = .ok actor) (huid : ctx.peer.uid = some uid)
    (hentry : g.catalog.keys.get? key = some entry) :
    Confined env manager g ctx uid key entry ↔ ¬ NameValidates env manager g key := by
  constructor
  · intro hconfined hname
    exact not_confined hfaith hmint hname hconfined
  · intro hname token hobtains vreq store decodeNow denyNow v hsvid haccepted
    cases hobtains with
    | mintJwt req mintNow respondNow resp hkey hmint' =>
      exact absurd (nameValidates_of_accepted hfaith hkey hmint' hsvid haccepted) hname
    | fetch req clock svids svid uid' issuer hpeer huid' hissuer hkey hfetch hmem =>
      obtain ⟨_, _, _, _, huid'', hissuer'', hsub, hclaims, hclaim⟩ :=
        fetchJwtsvid_sub hfetch hmem
      rw [hpeer, huid] at huid''
      cases huid''
      rw [huid] at huid'
      cases huid'
      rw [hissuer] at hissuer''
      cases hissuer''
      have hcatalog := jwtIssuer_ok hissuer
      rw [hkey, hentry] at hcatalog
      cases hcatalog
      obtain ⟨_, _, hbefore, -, -⟩ := validateJwtsvid_ok haccepted
      obtain ⟨hread, hspiffeId, -⟩ := validateBeforeDenyList_ok hbefore
      rw [hsvid, hclaims] at hread
      cases hread
      rw [hclaim] at hspiffeId
      rw [hsub, hspiffeId]

/-! ### Two deployments -/

def stampMintEnv (codec : JwsCodec) : MintEnv codec where
  toValidationEnv := stampEnv codec
  sign := fun _ alg input => .ok (stamp alg issuerPublicKey input)
  jtiHash := fun _ => "test-jti"
  kid := fun _ _ => "kid"
  isP256 := fun publicKey => decide (publicKey = issuerPublicKey)
  isP384 := fun _ => false
  isRsa := fun _ => false
  parseJson := fun bytes =>
    if bytes = audJson then .ok (.obj [("aud", .str "vault")]) else .error "expected value"

theorem stampMintEnv_faithful (codec : JwsCodec) : FaithfulSigning (stampMintEnv codec) where
  signs location publicKey alg input hkey _ := by
    cases hkey
    exact ⟨stamp alg issuerPublicKey input, rfl, decide_eq_true rfl⟩
  binds location publicKey alg input sig other hkey hsign hverify := by
    cases hkey
    cases hsign
    have hstamp := of_decide_eq_true hverify
    exact Eq.symm (by simpa [stamp] using hstamp)
  parses _ _ _ := rfl
  json := rfl

def apiContext : RequestContext := ⟨⟨none, some 9100, none⟩, some .host⟩

def apiActor : AuthenticatedActor := ⟨.hostProcess, "svc.api", apiContext.peer⟩

-- the issuer of `issuerCatalog` with an issuer id of its own
def labelledEntry : KeyEntry :=
  { issuerEntry with
    labels := ⟨["svid_kind=jwt", "trust_domain=example.org", "spiffe_id=spiffe://example.org/basil"]⟩ }

def labelledCatalog : Catalog :=
  { issuerCatalog with keys := ⟨[("svid.issuer", labelledEntry)], by decide⟩ }

def labelledGeneration : Generation := { issuerGeneration with catalog := labelledCatalog }

theorem labelled_not_nameValidates (codec : JwsCodec) :
    ¬ NameValidates (stampMintEnv codec) ⟨labelledCatalog, ["vault"]⟩ labelledGeneration
      "svid.issuer" := by
  rintro ⟨_, _, _, name, entry, _, _, _, _, -, -, hfind, -⟩
  obtain ⟨hmem, hkeep⟩ := List.mem_filter.mp (List.mem_of_find?_eq_some hfind)
  have hsame := List.mem_singleton.mp hmem
  cases hsame
  simp only [Bool.and_eq_true, decide_eq_true_eq] at hkeep
  exact absurd hkeep.2 (by decide)

theorem mint_confined_labelled :
    Confined (stampMintEnv Code.codec) ⟨labelledCatalog, ["vault"]⟩ labelledGeneration apiContext
      9100 "svid.issuer" labelledEntry := by
  have hmint : authorizeInGeneration labelledGeneration apiContext .mint "svid.issuer" =
      .ok apiActor := by decide
  exact (mint_confined_iff (stampMintEnv_faithful Code.codec) hmint rfl (by decide)).mpr
    (labelled_not_nameValidates Code.codec)

theorem issuer_nameValidates (codec : JwsCodec) :
    NameValidates (stampMintEnv codec) issuerManager issuerGeneration "svid.issuer" := by
  obtain ⟨routed, hrouted⟩ : ∃ routed, issuerManager.resolve "svid.issuer" = .ok routed :=
    ⟨_, rfl⟩
  refine ⟨9200, ⟨.hostProcess, "svc.gate", ⟨none, some 9200, none⟩⟩, "spiffe://example.org/svc-api",
    "svid.issuer", issuerEntry, routed, routed, issuerPublicKey, .es256, rfl, by decide,
    by decide, hrouted, hrouted, rfl, rfl, ?_, rfl⟩
  simp [jwsAlgForPublicKey, stampMintEnv, issuerPublicKey]

theorem mint_names_another_workload :
    ¬ ∀ (codec : JwsCodec) (env : MintEnv codec), FaithfulSigning env →
      ∀ (manager : BackendManager) (g : Generation) (ctx : RequestContext)
        (actor : AuthenticatedActor) (uid : Nat) (key : String) (entry : KeyEntry),
        Loader.Accepts g.catalog → manager.catalog = g.catalog →
        authorizeInGeneration g ctx .mint key = .ok actor → ctx.peer.uid = some uid →
        g.catalog.keys.get? key = some entry → isJwtSvidIssuer entry = true →
        (∀ op, g.pdp.allows actor op key = true → op = .mint) →
        Confined env manager g ctx uid key entry := by
  intro h
  have hmint : authorizeInGeneration issuerGeneration apiContext .mint "svid.issuer" =
      .ok apiActor := by decide
  have honly : ∀ op, issuerGeneration.pdp.allows apiActor op "svid.issuer" = true → op = .mint := by
    intro op
    cases op <;> decide
  have haccepts : Loader.Accepts issuerCatalog := ⟨_, rfl⟩
  have hconfined := h Code.codec (stampMintEnv Code.codec) (stampMintEnv_faithful Code.codec)
    issuerManager issuerGeneration apiContext apiActor 9100 "svid.issuer" issuerEntry haccepts rfl
    hmint rfl (by decide) (by decide) honly
  exact not_confined (stampMintEnv_faithful Code.codec) hmint (issuer_nameValidates Code.codec)
    hconfined

/-! ### Token ids

`jti_for` hashes the claims that stand before the caller's extras are merged. -/

/-- A request to either preset; an SVID has an algorithm and an audience. -/
structure TokenRequest where
  issuer : String
  subject : String
  svid : Option (SvidAlg × String)
  expiresIn : Option Nat
  extra : JsonValue
  now : Nat

def TokenRequest.mint (env : MintEnv codec) (location : Location) (r : TokenRequest) :
    Except GenericMintError String :=
  match r.svid with
  | none => mintGeneric env location r.issuer r.subject r.expiresIn r.extra r.now
  | some (alg, audience) =>
      mintSvid env location r.issuer alg r.subject audience r.expiresIn r.extra r.now

def TokenRequest.standard (r : TokenRequest) : Claims :=
  let named := ((∅ : Claims).insert "iss" (.str r.issuer)).insert "sub" (.str r.subject)
  let base := match r.svid with
    | none => named
    | some (_, audience) => named.insert "aud" (.str audience)
  let issued := base.insert "iat" (.num r.now)
  match r.expiresIn with
  | some secs => issued.insert "exp" (.num (satAddU64 r.now secs))
  | none => issued

def tokenId (codec : JwsCodec) (token : String) : Option JsonValue :=
  (unverifiedClaims codec token).bind fun claims => claims.lookup "jti"

section Ids

variable {location : Location} {r r' : TokenRequest} {token token' : String}

theorem tokenId_signed {claims : Claims} (h : signJwtClaims env location alg claims = .ok token) :
    tokenId codec token = claims.lookup "jti" := by
  obtain ⟨kid, sig, -, rfl⟩ := signJwtClaims_ok h
  rw [tokenId, unverifiedClaims_assemble codec alg kid claims sig]
  rfl

theorem tokenId_mint (h : r.mint env location = .ok token) :
    tokenId codec token = some (.str (env.jtiHash r.standard)) := by
  obtain ⟨_, _, svid, _, _, _⟩ := r
  cases svid with
  | none =>
    simp only [TokenRequest.mint, mintGeneric, bind_eq_ok] at h
    obtain ⟨-, -, _, -, claims, hmerge, hsign⟩ := h
    rw [tokenId_signed hsign, mergeExtras_lookup hmerge (by decide)]
    exact AList.lookup_insert _
  | some svid =>
    simp only [TokenRequest.mint, mintSvid, bind_eq_ok] at h
    obtain ⟨claims, hmerge, hsign⟩ := h
    rw [tokenId_signed hsign, mergeExtras_lookup hmerge (by decide)]
    exact AList.lookup_insert _

def HashInjective (env : MintEnv codec) : Prop :=
  ∀ claims claims', env.jtiHash claims = env.jtiHash claims' →
    ∀ name, claims.lookup name = claims'.lookup name

theorem standard_ext (h : ∀ name, r.standard.lookup name = r'.standard.lookup name) :
    r.standard = r'.standard := by
  have hiss := h "iss"
  have hsub := h "sub"
  have haud := h "aud"
  have hiat := h "iat"
  have hexp := h "exp"
  clear h
  obtain ⟨_, _, svid, lifetime, _, _⟩ := r
  obtain ⟨_, _, svid', lifetime', _, _⟩ := r'
  cases svid <;> cases svid' <;> cases lifetime <;> cases lifetime' <;>
    simp_all [TokenRequest.standard, -AList.insert_empty]

theorem token_ids_differ (hhash : HashInjective env) (h : r.mint env location = .ok token)
    (h' : r'.mint env location = .ok token') :
    tokenId codec token ≠ tokenId codec token' ↔
      ∃ name, r.standard.lookup name ≠ r'.standard.lookup name := by
  rw [tokenId_mint h, tokenId_mint h', ← not_forall, not_iff_not]
  constructor
  · intro hsame
    exact hhash _ _ (JsonValue.str.inj (Option.some.inj hsame))
  · intro hsame
    rw [standard_ext hsame]

end Ids

-- the hash is the encoding itself
def encodedIdEnv (codec : JwsCodec) : MintEnv codec :=
  { stampMintEnv codec with jtiHash := codec.encodeClaims }

theorem encodedIdEnv_injective (codec : JwsCodec) : HashInjective (encodedIdEnv codec) := by
  intro claims claims' hsame name
  have hparsed := congrArg codec.parseClaims hsame
  simp only [encodedIdEnv, codec.parseClaims_encode, Option.some.injEq] at hparsed
  rw [hparsed]

noncomputable def mintedSvid (extra : JsonValue) (now : Nat) : Except GenericMintError String :=
  TokenRequest.mint (encodedIdEnv Code.codec) ⟨"vault", "transit/svid"⟩
    ⟨"svid.issuer", "spiffe://example.org/api", some (.es256, "vault"), some 300, extra, now⟩

theorem token_ids_differ_by_second : ∃ token token', mintedSvid .null 0 = .ok token ∧
    mintedSvid .null 1 = .ok token' ∧ tokenId Code.codec token ≠ tokenId Code.codec token' := by
  have h : mintedSvid .null 0 = .ok _ := rfl
  have h' : mintedSvid .null 1 = .ok _ := rfl
  have hname : some (JsonValue.num 0) ≠ some (.num 1) := by simp
  exact ⟨_, _, h, h', (token_ids_differ (encodedIdEnv_injective Code.codec) h h').mpr ⟨"iat", hname⟩⟩

theorem extra_claims_share_token_id : HashInjective (encodedIdEnv Code.codec) ∧
    ∃ token token' claims claims', mintedSvid .null 0 = .ok token ∧
      mintedSvid (.obj [("role", .str "admin")]) 0 = .ok token' ∧
      unverifiedClaims Code.codec token = some claims ∧
      unverifiedClaims Code.codec token' = some claims' ∧
      claims.lookup "role" = none ∧ claims'.lookup "role" = some (.str "admin") ∧
      tokenId Code.codec token = tokenId Code.codec token' := by
  have h : mintedSvid .null 0 = .ok _ := rfl
  have h' : mintedSvid (.obj [("role", .str "admin")]) 0 = .ok _ := rfl
  exact ⟨encodedIdEnv_injective Code.codec, _, _, _, _, h, h',
    unverifiedClaims_assemble Code.codec .es256 _ _ _,
    unverifiedClaims_assemble Code.codec .es256 _ _ _, rfl, rfl,
    (tokenId_mint h).trans (tokenId_mint h').symm⟩

end Basil.Minting
