import Basil.JwtCodec
import Basil.Lib.Trace
import Basil.Svid

/-!
# A revoked JWT-SVID over whole runs

After one token is revoked, the deny-list serves any sequence of lookups, revocations of other
tokens, refreshes and validations, each with its own generation, backend answers and clock
readings.
-/

namespace Basil.Svid

open Jwt Revocation Evidence List

variable {codec : JwsCodec}

inductive Call (codec : JwsCodec) where
  | isRevoked (trustDomain jti : String) (now : Nat)
  | insert (trustDomain jti : String) (expiresAtUnix now : Nat)
  | refresh (manager : BackendManager) (read : BackingRead) (loadNow mergeNow : Nat)
  | validate (manager : BackendManager) (g : Generation) (env : ValidationEnv codec)
      (req : ValidateRequest) (decodeNow denyNow : Nat)

inductive Reply where
  | revoked (answer : Bool)
  | updated (result : Except StoreError Unit)
  | validated (result : Except Status ValidJwtSvid)

def step (store : JwtRevocationStore) : Call codec → JwtRevocationStore × Reply
  | .isRevoked trustDomain jti now =>
      let r := store.isRevoked trustDomain jti now
      (r.1, .revoked r.2)
  | .insert trustDomain jti expiresAtUnix now =>
      let r := store.insert trustDomain jti expiresAtUnix now
      (r.1, .updated r.2)
  | .refresh manager read loadNow mergeNow =>
      let r := store.refreshFromManager manager read loadNow mergeNow
      (r.1, .updated r.2)
  | .validate manager g env req decodeNow denyNow =>
      let r := validateJwtsvid manager g env store req decodeNow denyNow
      (r.1, .validated r.2)

def Call.readings : Call codec → List Nat
  | .isRevoked _ _ now => [now]
  | .insert _ _ _ now => [now]
  | .refresh _ _ loadNow mergeNow => [loadNow, mergeNow]
  | .validate _ _ _ _ decodeNow denyNow => [decodeNow, denyNow]

def Call.spares (key : RevocationKey) : Call codec → Prop
  | .insert trustDomain jti _ _ => (⟨trustDomain, jti⟩ : RevocationKey) ≠ key
  | _ => True

def Carries (codec : JwsCodec) (svid : String) (key : RevocationKey) (exp : Nat) : Prop :=
  ∃ claims sub, unverifiedClaims codec svid = some claims ∧
    claims.strClaim "sub" = some sub ∧ (spiffeParts sub).map Prod.fst = some key.trustDomain ∧
    claims.strClaim "jti" = some key.jti ∧ expClaim claims = some exp

def Call.inLeewayGap (key : RevocationKey) (exp : Nat) : Call codec → Prop
  | .validate _ _ _ req decodeNow denyNow =>
      Carries codec req.svid key exp ∧ decodeNow ≤ exp + 60 ∧ exp ≤ denyNow
  | _ => False

def Accepts (key : RevocationKey) (exp : Nat) (e : Call codec × Reply) : Prop :=
  ∃ manager g env req decodeNow denyNow v,
    e = (.validate manager g env req decodeNow denyNow, .validated (.ok v)) ∧
      Carries codec req.svid key exp

def Guarded (key : RevocationKey) (exp clock : Nat) (store : JwtRevocationStore) : Prop :=
  clock < exp → store.Covers key exp

variable {key : RevocationKey} {exp clock : Nat} {store : JwtRevocationStore} {call : Call codec}

theorem covers_call {bound : Nat} (h : store.Covers key bound) (hspares : call.spares key)
    (hreadings : ∀ r ∈ call.readings, r < bound) : (step store call).1.Covers key bound := by
  cases call with
  | isRevoked trustDomain jti now =>
    exact h.isRevoked (hreadings now (by simp [Call.readings])) trustDomain jti
  | insert trustDomain jti expiresAtUnix now => exact h.insert hspares expiresAtUnix now
  | refresh manager read loadNow mergeNow =>
    exact h.refreshFromManager (hreadings mergeNow (by simp [Call.readings])) manager read loadNow
  | validate manager g env req decodeNow denyNow =>
    rcases validateJwtsvid_store manager g env store req decodeNow denyNow with hs | ⟨td, jti, hs⟩
    · simp only [step, hs]
      exact h
    · simp only [step, hs]
      exact h.isRevoked (hreadings denyNow (by simp [Call.readings])) td jti

theorem guarded_step {last : Nat} (hguard : Guarded key exp clock store) (hspares : call.spares key)
    (hfrom : ∀ r ∈ call.readings, clock ≤ r) (hto : ∀ r ∈ call.readings, r ≤ last)
    (hlast : last ∈ call.readings) : Guarded key exp last (step store call).1 := by
  intro hexp
  have hbefore := hfrom last hlast
  refine covers_call (hguard (by omega)) hspares fun r hr => ?_
  have hle := hto r hr
  omega

theorem not_accepts_step (hguard : Guarded key exp clock store)
    (hfrom : ∀ r ∈ call.readings, clock ≤ r) (hgap : ¬ call.inLeewayGap key exp) :
    ¬ Accepts key exp (call, (step store call).2) := by
  rintro ⟨manager, g, env, req, decodeNow, denyNow, v, hevent, hcarries⟩
  rw [Prod.mk.injEq] at hevent
  obtain ⟨rfl, hreply⟩ := hevent
  have hresult : (validateJwtsvid manager g env store req decodeNow denyNow).2 = .ok v := by
    simpa [step] using hreply
  have houtside : ¬ (decodeNow ≤ exp + 60 ∧ exp ≤ denyNow) := fun h => hgap ⟨hcarries, h⟩
  obtain ⟨_, _, hbefore, hjti, hnotRevoked⟩ := validateJwtsvid_ok hresult
  obtain ⟨hclaims, hsub, hparts, hleeway⟩ := validateBeforeDenyList_ok hbefore
  obtain ⟨claims, _, hclaims', hsub', hparts', hjti', hexp⟩ := hcarries
  -- the text determines its claims, so the token is looked up under `key`
  rw [hclaims] at hclaims'
  cases hclaims'
  rw [hsub] at hsub'
  cases hsub'
  rw [hparts] at hparts'
  cases hparts'
  rw [hjti] at hjti'
  cases hjti'
  have hdecode : decodeNow ≤ exp + 60 := hleeway exp hexp
  have hfrom' := hfrom denyNow (by simp [Call.readings])
  by_cases hlate : exp ≤ denyNow
  · exact houtside ⟨hdecode, hlate⟩
  · have hdenied := (hguard (by omega)).denied (show denyNow < exp by omega)
    rw [hdenied] at hnotRevoked
    cases hnotRevoked

theorem not_accepts_run {calls : List (Call codec)} (hguard : Guarded key exp clock store)
    (hclock : (clock :: calls.flatMap Call.readings).Pairwise (· ≤ ·))
    (hspares : ∀ c ∈ calls, c.spares key) (hgap : ∀ c ∈ calls, ¬ c.inLeewayGap key exp) :
    ∀ e ∈ Trace.events step store calls, ¬ Accepts key exp e := by
  induction calls generalizing store clock with
  | nil => simp
  | cons c calls ih =>
    rw [flatMap_cons, pairwise_cons] at hclock
    have hfrom : ∀ r ∈ c.readings, clock ≤ r := by
      intro r hr
      exact hclock.1 r (mem_append_left _ hr)
    intro e he
    rw [Trace.events_cons, mem_cons] at he
    rcases he with rfl | he
    · exact not_accepts_step hguard hfrom (hgap c (by simp))
    · -- the last reading of `c` is the clock the rest of the run starts from
      obtain ⟨last, hlast, hto⟩ : ∃ last ∈ c.readings, ∀ r ∈ c.readings, r ≤ last := by
        have hsorted := (pairwise_append.mp hclock.2).1
        cases c with
        | isRevoked td jti now | insert td jti x now =>
          exact ⟨now, by simp [Call.readings], by simp [Call.readings]⟩
        | refresh m read loadNow mergeNow =>
          have hle : loadNow ≤ mergeNow := by simpa [Call.readings] using hsorted
          exact ⟨mergeNow, by simp [Call.readings], by simp [Call.readings, hle]⟩
        | validate m g env req decodeNow denyNow =>
          have hle : decodeNow ≤ denyNow := by simpa [Call.readings] using hsorted
          exact ⟨denyNow, by simp [Call.readings], by simp [Call.readings, hle]⟩
      have hnext := guarded_step hguard (hspares c (by simp)) hfrom hto hlast
      have hrest := pairwise_append.mp hclock.2
      refine ih hnext ?_ (fun c' hc' => hspares c' (by simp [hc']))
        (fun c' hc' => hgap c' (by simp [hc'])) e he
      rw [pairwise_cons]
      exact ⟨fun r hr => hrest.2.2 last hlast r hr, hrest.2.1⟩

theorem revoked_never_accepted (store : JwtRevocationStore) (manager : BackendManager)
    (put : Location → Except BackendError Unit) (key : RevocationKey) (exp revokedAt : Nat)
    (hrevoked : (store.revokeJwtSvid manager put key.trustDomain key.jti exp revokedAt).2 = .ok ())
    (calls : List (Call codec))
    (hclock : (revokedAt :: calls.flatMap Call.readings).Pairwise (· ≤ ·))
    (hspares : ∀ c ∈ calls, c.spares key) (hgap : ∀ c ∈ calls, ¬ c.inLeewayGap key exp) :
    ∀ e ∈ Trace.events step
        (store.revokeJwtSvid manager put key.trustDomain key.jti exp revokedAt).1 calls,
      ¬ Accepts key exp e := by
  have hguard : Guarded key exp revokedAt
      (store.revokeJwtSvid manager put key.trustDomain key.jti exp revokedAt).1 := by
    intro hlt
    exact JwtRevocationStore.revokeJwtSvid_covers hlt hrevoked
  exact not_accepts_run hguard hclock hspares hgap

/-! ### A deployment with one issuer

The ES256 issuer of `example.org`, a caller that may only mint with it (uid 9100)
and one that may only validate (uid 9200). -/

def hostUser (uid : Nat) : SubjectDefinition := ⟨.hostProcess, false, .leaf (.processUid (.numeric uid))⟩

def issuerGeneration : Generation where
  id := 1
  catalog := issuerCatalog
  policy :=
    { subjects := ⟨[("svc.api", hostUser 9100), ("svc.gate", hostUser 9200)], by decide⟩
      rules := [⟨["svc.api"], [⟨.mint, .anyKey, "r1", "op:mint"⟩]⟩,
        ⟨["svc.gate"], [⟨.validate, .anyKey, "r2", "op:validate"⟩]⟩] }
  config := ⟨⟨⟨[(9100, "svc-api")], by decide⟩, OrdMap.empty⟩, OrdMap.empty⟩

def issuerManager : BackendManager := ⟨issuerCatalog, ["vault"]⟩

def apiClaims : Claims :=
  (((((∅ : Claims).insert "iss" (.str "svid.issuer")).insert "sub"
    (.str "spiffe://example.org/svc-api")).insert "aud" (.str "vault")).insert "exp"
    (.num 1300)).insert "jti" (.str "test-jti")

def issuerPublicKey : Bytes := [4]

-- a signature check in which a signature names its algorithm, key and text
def stamp (alg : SvidAlg) (publicKey : Bytes) (input : String) : Bytes :=
  UInt8.ofNat (Code.algNumber alg) ::
    (publicKey ++ input.toList.map fun c => UInt8.ofNat c.toNat)

def stampLibrary (codec : JwsCodec) : JwtLibrary codec :=
  .ofVerify codec fun alg publicKey input sig => decide (sig = stamp alg publicKey input)

def stampEnv (codec : JwsCodec) : ValidationEnv codec where
  lib := stampLibrary codec
  pemOk := fun _ _ => true
  publicKey := fun _ => .ok issuerPublicKey

def apiSvid (codec : JwsCodec) : String :=
  let header := codec.encodeHeader .es256 "kid"
  let payload := codec.encodeClaims apiClaims
  assemble header payload
    (codec.encodeSig (stamp .es256 issuerPublicKey (signingInput header payload)))

def apiRequest (codec : JwsCodec) : ValidateRequest where
  header := [some "true"]
  peer := ⟨none, some 9200, none⟩
  audience := "vault"
  svid := apiSvid codec

def apiKey : RevocationKey := ⟨"example.org", "test-jti"⟩

theorem apiSvid_carries (codec : JwsCodec) : Carries codec (apiSvid codec) apiKey 1300 :=
  ⟨apiClaims, "spiffe://example.org/svc-api", unverifiedClaims_assemble codec .es256 "kid" apiClaims _,
    by decide, by decide, by decide, by decide⟩

theorem apiSvid_decodes (codec : JwsCodec) {now : Nat} (hnow : now ≤ 1360) :
    validateBeforeDenyList issuerManager issuerGeneration (stampEnv codec) (apiRequest codec) now =
      .ok (⟨"spiffe://example.org/svc-api", apiClaims⟩, "example.org") := by
  have hissuer : jwtValidationIssuer issuerManager issuerGeneration 9200 apiClaims =
      .ok ⟨⟨"vault", "svid_issuer"⟩, "svid.issuer", issuerEntry⟩ := by decide
  have haccepts : (svidValidation .es256 "svid.issuer" "vault").accepts apiClaims now = true := by
    have hexp : (svidValidation .es256 "svid.issuer" "vault").expOk apiClaims now = true :=
      decide_eq_true hnow
    have hspec : (svidValidation .es256 "svid.issuer" "vault").requiredSpecClaims.all
        (specClaimPresent apiClaims) = true := by decide
    have hiss : (svidValidation .es256 "svid.issuer" "vault").issOk apiClaims = true := by decide
    have haud : (svidValidation .es256 "svid.issuer" "vault").audOk apiClaims = true := by decide
    simp [Validation.accepts, hspec, hexp, hiss, haud]
  have hdecode := ((stampLibrary codec).decode_assemble .es256 "kid" apiClaims apiClaims _
    issuerPublicKey (svidValidation .es256 "svid.issuer" "vault") now).mpr
    ⟨rfl, rfl, decide_eq_true rfl, haccepts⟩
  have hpem : decodingKey (fun _ _ => true) issuerPublicKey .es256 = .ok issuerPublicKey := by
    simp [decodingKey, ensure]
  have haudience : Text.trim "vault" ≠ "" := by decide
  refine validateBeforeDenyList_accepts rfl rfl haudience (trim_assemble _ _ _)
    (unverifiedClaims_assemble codec .es256 "kid" apiClaims _) hissuer ?_ (by decide)
  exact validateJwtSvid_accepts rfl rfl hpem hdecode (by decide) (by decide) (by decide)

def revokedStore : JwtRevocationStore :=
  (JwtRevocationStore.default.revokeJwtSvid issuerManager (fun _ => .ok ()) "example.org" "test-jti"
    1300 1000).1

def validateAt (codec : JwsCodec) (now : Nat) : Call codec :=
  .validate issuerManager issuerGeneration (stampEnv codec) (apiRequest codec) now now

theorem revoked_never_accepted_outside_leeway :
    (JwtRevocationStore.default.revokeJwtSvid issuerManager (fun _ => .ok ()) apiKey.trustDomain
      apiKey.jti 1300 1000).2 = .ok () ∧
    ∀ e ∈ Trace.events step revokedStore
        [validateAt Code.codec 1299, validateAt Code.codec 1361], ¬ Accepts apiKey 1300 e :=
  ⟨rfl, revoked_never_accepted .default issuerManager (fun _ => .ok ()) apiKey 1300 1000 rfl
    [validateAt Code.codec 1299, validateAt Code.codec 1361]
    (by simp [validateAt, Call.readings]) (by simp [validateAt, Call.spares])
    (by simp [validateAt, Call.inLeewayGap])⟩

theorem revoked_accepted_in_leeway :
    ¬ ∀ (codec : JwsCodec) (store : JwtRevocationStore) (manager : BackendManager)
      (put : Location → Except BackendError Unit) (key : RevocationKey) (exp revokedAt : Nat),
      (store.revokeJwtSvid manager put key.trustDomain key.jti exp revokedAt).2 = .ok () →
      ∀ calls : List (Call codec),
        (revokedAt :: calls.flatMap Call.readings).Pairwise (· ≤ ·) →
        (∀ c ∈ calls, c.spares key) →
        ∀ e ∈ Trace.events step
            (store.revokeJwtSvid manager put key.trustDomain key.jti exp revokedAt).1 calls,
          ¬ Accepts key exp e := by
  intro h
  have hnone := h Code.codec .default issuerManager (fun _ => .ok ()) apiKey 1300 1000 rfl
      [validateAt Code.codec 1330] (by simp [validateAt, Call.readings])
      (by simp [validateAt, Call.spares])
  -- at 1330 the lookup has pruned the entry, and 1330 is within 1300 + 60
  have hpruned : (revokedStore.isRevoked "example.org" "test-jti" 1330).2 = false := by decide
  have haccepted : (validateJwtsvid issuerManager issuerGeneration (stampEnv Code.codec)
      revokedStore (apiRequest Code.codec) 1330 1330).2 =
        .ok ⟨"spiffe://example.org/svc-api", apiClaims⟩ :=
    validateJwtsvid_accepts (apiSvid_decodes Code.codec (by omega)) (by decide) hpruned
  have hevent : Accepts apiKey 1300
      (validateAt Code.codec 1330, (step revokedStore (validateAt Code.codec 1330)).2) := by
    refine ⟨issuerManager, issuerGeneration, stampEnv Code.codec, apiRequest Code.codec, 1330, 1330,
      ⟨"spiffe://example.org/svc-api", apiClaims⟩, ?_, apiSvid_carries Code.codec⟩
    simp [validateAt, step, haccepted]
  have hmem : (validateAt Code.codec 1330, (step revokedStore (validateAt Code.codec 1330)).2) ∈
      Trace.events step revokedStore [validateAt Code.codec 1330] := by
    exact mem_cons_self
  exact absurd hevent (hnone _ hmem)

end Basil.Svid
