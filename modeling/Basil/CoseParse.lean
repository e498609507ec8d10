import Basil.CoseHeaders

/-!
# The decoder reads back what the encoder wrote

Each entry fills the field of the accumulator that it was written from; a field that was absent
stays absent.
-/

namespace Basil.Cose

open Option

open List hiding map head

open Cbor Label Registered ResponseKey KeyId KeyAgreementAlgorithm ClaimsParts

variable {env : CoseEnv}

/-! ### Identifiers -/

theorem keyIdFromBytes_bytes (id : KeyId) : keyIdFromBytes id.bytes = .ok id := by
  rw [keyIdFromBytes, fromBytes, dif_pos id.wellFormed]
  rfl

theorem MessageId.fromBytes_val (id : MessageId) : MessageId.fromBytes id.1 = .ok id := dif_pos id.2

theorem Subject.new_val (subject : Subject) : Subject.new subject.1 = .ok subject := dif_pos subject.2

theorem ContentType.new_val (contentType : ContentType) :
    ContentType.new contentType.1 = .ok contentType := dif_pos contentType.2

theorem partyIdentityFromBytes_ok {identity : Bytes} (h : identity ≠ []) :
    partyIdentityFromBytes identity = .ok identity := by
  rw [partyIdentityFromBytes, ensure_pos h]
  rfl

theorem KeyId.textBytes_asCatalogName {id : KeyId} {name : String} (h : id.asCatalogName = some name) :
    textBytes name = id.bytes := by
  unfold asCatalogName String.fromUTF8? at h
  split_ifs at h
  cases h
  exact toList_toArray

theorem KeyId.fromText_asCatalogName {id : KeyId} {name : String} (h : id.asCatalogName = some name) :
    fromText name = some id := by
  rw [fromText, textBytes_asCatalogName h, fromBytes, dif_pos id.wellFormed]

theorem fromCoseKeyBytes_toCoseKeyBytes {key : FixedBytes 32}
    (h : fromPublicBytes env key = .ok key) :
    fromCoseKeyBytes env (toCoseKeyBytes key) = .ok key := by
  have hstrip : coseKeyLead.isPrefixOf? (toCoseKeyBytes key) =
      some key.bytes := rfl
  simp [fromCoseKeyBytes, hstrip, h]

/-! ### Claims -/

variable {c : Claims} {signed : Bool} {l : Int} {h : HeaderParts} {contentType : ContentType}
  {claims : Option Claims} {headers : Option ProtectedHeaders} {kid : Option KeyId} {σ : Type}
  {out : σ} {entries : List (Int × Bytes)}

theorem fills_cwt (hc : c.Admissible env) (hfits : ∀ entry ∈ cwtEntries c, entry.2.length < 2 ^ 64) :
    Fills cwtField (cwtEntries c) {} {
      issuer := c.issuer
      audience := c.audience
      expiresAt := c.expiresAt
      issuedAt := some c.issuedAt
      messageId := some c.messageId } := by
  simp only [cwtEntries, forall_mem_append, forall_mem_optEntry, forall_mem_cons] at hfits
  obtain ⟨⟨⟨hiss, haud⟩, -⟩, -, hcti, -⟩ := hfits
  let start : ClaimsParts := {}
  let issued : ClaimsParts := { start with issuer := c.issuer }
  let addressed : ClaimsParts := { issued with audience := c.audience }
  let bounded : ClaimsParts := { addressed with expiresAt := c.expiresAt }
  let dated : ClaimsParts := { bounded with issuedAt := some c.issuedAt }
  have hissuer := fills_optEntry cwtField cwtIss (g := fun o => { start with issuer := o }) rfl
    fun issuer hmem => reads_validated (reads_str (hiss issuer hmem) _) issuer.new_val
  have haudience := fills_optEntry cwtField cwtAud (g := fun o => { issued with audience := o })
    rfl fun audience hmem => reads_validated (reads_str (haud audience hmem) _) audience.new_val
  have hexpiry := fills_optEntry cwtField cwtExp (g := fun o => { addressed with expiresAt := o })
    rfl fun exp hmem => (reads_time (hc.expiresAt exp hmem) _).map fun exp =>
      ({ addressed with expiresAt := some exp } : ClaimsParts)
  have hdated : Reads (cwtField cwtIat bounded) (int c.issuedAt) dated :=
    (reads_time hc.issuedAt _).map fun iat => ({ bounded with issuedAt := some iat } : ClaimsParts)
  have hid : Reads (cwtField cwtCti dated) (bstr c.messageId.1)
      { dated with messageId := some c.messageId } :=
    reads_validated (reads_bytes hcti _) c.messageId.fromBytes_val
  exact ((hissuer.append haudience).append hexpiry).append ⟨dated, hdated, _, hid, rfl⟩

theorem reads_cwtMap (hc : c.Admissible env) (hfits : (map (cwtEntries c)).length < 2 ^ 64) :
    Reads (parseCwtMap {}) (map (cwtEntries c)) {
      issuer := c.issuer
      audience := c.audience
      expiresAt := c.expiresAt
      issuedAt := some c.issuedAt
      messageId := some c.messageId
      cwtPresent := true } := by
  have hordered : cwtLabels.Pairwise Before ∧ ∀ l ∈ cwtLabels, InI64 l := by decide
  have hsub := cwtEntries_labels c
  rw [map, length_append] at hfits
  have hcount : (cwtEntries c).length ≤ 5 := by
    have hle := hsub.length_le
    rwa [length_map] at hle
  have hvalues : ∀ entry ∈ cwtEntries c, entry.2.length < 2 ^ 64 := by
    intro entry hentry
    have hle := length_le_of_mem_entries hentry
    omega
  refine Reads.bind (reads_mapLen (by omega)) ?_
  exact (reads_map (hordered.1.sublist hsub) (fun l hl => hordered.2 l (hsub.mem hl))
    (fills_cwt hc hvalues)).map fun parts => { parts with cwtPresent := true }

/-! ### Headers with claims -/

theorem reads_basilField {w : Bytes} {parts : ClaimsParts}
    (hl : l ∈ [inReplyTo.code, requestHash.code, senderKeyId.code,
      responseKeyId.code, responseSubject.code, freshnessChallenge.code,
      responsePublicKeyCose.code])
    (hread : Reads (parseBasilLabel env l h.parts) w (some parts)) :
    Reads (claimsCapableField env signed l h) w { h with parts } := by
  have hall : Reads (claimsCapableField env signed l h) (w ++ []) { h with parts } := by
    simp only [mem_cons, not_mem_nil, or_false] at hl
    obtain rfl | rfl | rfl | rfl | rfl | rfl | rfl := hl <;> cases signed <;>
      exact Reads.bind hread (reads_pure { h with parts })
  rwa [append_nil] at hall

theorem reads_responseKeyId (parts : ClaimsParts) {o : Option KeyId} {name : String}
    (hname : name ∈ o.bind asCatalogName) (h : (tstr name).length < 2 ^ 64) :
    Reads (parseBasilLabel env responseKeyId.code parts) (tstr name)
      (some { parts with basilPresent := true, responseKeyId := fromText name }) := by
  obtain ⟨id, -, hid⟩ := bind_eq_some_iff.mp hname
  have hbytes : keyIdFromBytes (textBytes name) = .ok id := by
    rw [textBytes_asCatalogName hid, keyIdFromBytes_bytes]
  rw [fromText_asCatalogName hid]
  exact reads_validated (f := fun name => keyIdFromBytes (textBytes name)) (reads_str h _) hbytes

theorem fills_basil (env : CoseEnv) (signed : Bool) (h : HeaderParts) (b : Bool) {α : Type} {value : α → Bytes}
    {o : Option α} {g : Option α → ClaimsParts}
    (hl : l ∈ [inReplyTo.code, requestHash.code, senderKeyId.code,
      responseKeyId.code, responseSubject.code, freshnessChallenge.code,
      responsePublicKeyCose.code])
    (hread : ∀ a ∈ o, Reads (parseBasilLabel env l { g none with basilPresent := b }) (value a)
      (some { g (some a) with basilPresent := true })) :
    Fills (claimsCapableField env signed) (optEntry l value o)
      { h with parts := { g none with basilPresent := b } }
      { h with parts := { g o with basilPresent := b || o.isSome } } := by
  cases o with
  | none =>
    rw [isSome_none, Bool.or_false]
    rfl
  | some a =>
    rw [isSome_some, Bool.or_true]
    exact fills_single (reads_basilField hl (hread a rfl))

theorem bind_fromText {o : Option KeyId} (h : ∀ id ∈ o, id.asCatalogName.isSome = true) :
    (o.bind asCatalogName).bind fromText = o := by
  cases o with
  | none => rfl
  | some id =>
    obtain ⟨_, hname⟩ := isSome_iff_exists.mp (h id rfl)
    rw [bind_some, hname, bind_some, fromText_asCatalogName hname]

def ClaimsParts.early (c : Claims) : ClaimsParts where
  issuer := c.issuer
  audience := c.audience
  expiresAt := c.expiresAt
  issuedAt := some c.issuedAt
  messageId := some c.messageId
  inReplyTo := c.inReplyTo
  requestHash := c.requestHash
  senderKeyId := c.senderKeyId
  responseKeyId := c.responseKeyId
  responseSubject := c.responseSubject
  cwtPresent := true

theorem fills_claims (hc : c.Admissible env)
    (hname : ∀ id ∈ c.responseKeyId, id.asCatalogName.isSome = true)
    (hfits : ∀ entry ∈ claimsEntries c, entry.2.length < 2 ^ 64) (hparts : h.parts = {}) :
    ∃ b, Fills (claimsCapableField env signed) (claimsEntries c) h
      { h with parts := { early c with basilPresent := b } } := by
  simp only [claimsEntries, forall_mem_append, forall_mem_optEntry, mem_singleton,
    forall_eq] at hfits
  obtain ⟨⟨⟨⟨⟨hcwt, hreply⟩, hhash⟩, hsender⟩, hresponse⟩, hsubject⟩ := hfits
  let cwt : ClaimsParts := {
    issuer := c.issuer
    audience := c.audience
    expiresAt := c.expiresAt
    issuedAt := some c.issuedAt
    messageId := some c.messageId
    cwtPresent := true }
  let replied : ClaimsParts := { cwt with inReplyTo := c.inReplyTo }
  let hashed : ClaimsParts := { replied with requestHash := c.requestHash }
  let sent : ClaimsParts := { hashed with senderKeyId := c.senderKeyId }
  have hmap : Reads (claimsCapableField env signed hdrCwtClaims h) (map (cwtEntries c))
      { h with parts := cwt } := by
    have hread := reads_cwtMap hc hcwt
    rw [← hparts] at hread
    cases signed
    · exact hread.map fun parts => ({ h with parts } : HeaderParts)
    · exact hread.map fun parts => ({ h with parts } : HeaderParts)
  have hreplied (b : Bool) := fills_basil env signed h b (l := inReplyTo.code)
    (g := fun o => { cwt with inReplyTo := o }) (by decide) fun id hid =>
      reads_validated (reads_bytes (hreply id hid) _) id.fromBytes_val
  have hhashed (b : Bool) := fills_basil env signed h b (l := requestHash.code)
    (g := fun o => { replied with requestHash := o }) (by decide) fun hash hmem =>
      (reads_fixed hash (hhash hash hmem) _).map fun hash =>
        some ({ replied with basilPresent := true, requestHash := some hash } : ClaimsParts)
  have hsent (b : Bool) := fills_basil env signed h b (l := senderKeyId.code)
    (g := fun o => { hashed with senderKeyId := o }) (by decide) fun id hid =>
      reads_validated (reads_bytes (hsender id hid) _) (keyIdFromBytes_bytes id)
  have hnamed (b : Bool) := fills_basil env signed h b
    (g := fun o => { sent with responseKeyId := o.bind fromText }) (by decide)
    fun name hmem => reads_responseKeyId _ hmem (hresponse name hmem)
  rw [bind_fromText hname] at hnamed
  have hanswered (b : Bool) := fills_basil env signed h b (l := responseSubject.code) (g := fun o => { sent with
    responseKeyId := c.responseKeyId
    responseSubject := o }) (by decide) fun subject hmem =>
      reads_validated (reads_str (hsubject subject hmem) _)
        (by rw [responseSubjectNew, ensure_pos (hc.responseSubject subject hmem)]; rfl)
  exact ⟨_, (((((fills_single hmap).append (hreplied false)).append (hhashed _)).append (hsent _)).append
    (hnamed _)).append (hanswered _)⟩

theorem fills_signed (env : CoseEnv) (signed : Bool) (l : Int) {α : Type} {value : α → Bytes} {o : Option α}
    {g : Option α → HeaderParts} (ho : signed = true ∨ o = none) (hnone : g none = h)
    (hread : ∀ a ∈ o, Reads (claimsCapableField env true l h) (value a) (g (some a))) :
    Fills (claimsCapableField env signed) (optEntry l value o) h (g o) := by
  obtain rfl | rfl := ho
  · exact fills_optEntry _ l hnone hread
  · exact hnone.symm

theorem fills_lateClaims (hc : c.Admissible env)
    (hchallenge : ∀ challenge ∈ c.freshnessChallenge, (bstr challenge.bytes).length < 2 ^ 64)
    (hresponse : ∀ key ∈ c.responsePublicKeyCose,
      (bstr (toCoseKeyBytes key)).length < 2 ^ 64) (h : HeaderParts) (b : Bool) :
    ∃ b', Fills (claimsCapableField env signed)
      (optEntry freshnessChallenge.code (fun challenge : FixedBytes 32 => bstr challenge.bytes)
          c.freshnessChallenge ++
        optEntry responsePublicKeyCose.code
          (fun key : FixedBytes 32 => bstr (toCoseKeyBytes key)) c.responsePublicKeyCose)
      { h with parts := { early c with basilPresent := b } }
      { h with parts := { early c with
        freshnessChallenge := c.freshnessChallenge
        responsePublicKeyCose := c.responsePublicKeyCose
        basilPresent := b' } } := by
  let fresh : ClaimsParts := { early c with freshnessChallenge := c.freshnessChallenge }
  have hfresh := fills_basil env signed h b (l := freshnessChallenge.code)
    (g := fun o => { early c with freshnessChallenge := o }) (by decide) fun challenge hmem =>
      (reads_fixed challenge (hchallenge challenge hmem) _).map fun challenge =>
        some ({ early c with basilPresent := true, freshnessChallenge := some challenge } : ClaimsParts)
  have hkeyed (b : Bool) := fills_basil env signed h b (l := responsePublicKeyCose.code)
    (g := fun o => { fresh with responsePublicKeyCose := o }) (by decide) fun key hmem =>
      reads_validated (reads_bytes (hresponse key hmem) _)
        (fromCoseKeyBytes_toCoseKeyBytes (hc.responseKey key hmem))
  exact ⟨_, hfresh.append (hkeyed _)⟩

theorem intoClaims_of_all (hbinding : responseKeyBindingMatches env c = true) (b : Bool) :
    ({ early c with
      freshnessChallenge := c.freshnessChallenge
      responsePublicKeyCose := c.responsePublicKeyCose
      basilPresent := b } : ClaimsParts).intoClaims env = .ok (some c) := by
  show (do
    ensure (responseKeyBindingMatches env c = true) DecodeError.responseKeyIdMismatch
    return some c) = .ok (some c)
  rw [ensure_pos hbinding]
  rfl

def headersOf (headers : Option ProtectedHeaders) : ProtectedHeaders := headers.getD ⟨[], none, none⟩

theorem jwtChain_getD (headers : Option ProtectedHeaders) :
    (jwtChain headers).getD [] = (headersOf headers).signerCertificatesJwt := by
  cases headers with
  | none => rfl
  | some h =>
    show (if h.signerCertificatesJwt = [] then none else some h.signerCertificatesJwt).getD [] =
      h.signerCertificatesJwt
    split_ifs with hempty
    · exact hempty.symm
    · rfl

theorem headersOf_eq (headers : Option ProtectedHeaders) :
    headersOf headers = ⟨(jwtChain headers).getD [], signerKey headers, targetKeyId headers⟩ := by
  rw [jwtChain_getD]
  cases headers <;> rfl

theorem fills_tail (alg : Int) (hsigned : signed = true ∨ headers = none ∧ kid = none)
    (hclaims : ∀ c ∈ claims, c.Admissible env)
    (hbinding : ∀ c ∈ claims, responseKeyBindingMatches env c = true)
    (hname : ∀ c ∈ claims, ∀ id ∈ c.responseKeyId, id.asCatalogName.isSome = true)
    (hfits : ∀ entry ∈ tailEntries contentType claims headers kid, entry.2.length < 2 ^ 64) :
    ∃ parts, parts.intoClaims env = .ok claims ∧
      Fills (claimsCapableField env signed) (tailEntries contentType claims headers kid)
        { alg := some alg } {
          alg := some alg
          crit := some (critLabels claims headers)
          contentType := some contentType
          kid := kid
          parts := parts
          protectedHeaders := headersOf headers } := by
  simp only [tailEntries, forall_mem_append, forall_mem_optEntry, forall_mem_cons] at hfits
  obtain ⟨⟨⟨⟨⟨⟨⟨⟨hcrit, htype, -⟩, hkid⟩, hblock⟩, hjwt⟩, hkey⟩, hchallenge⟩, hresponse⟩, htarget⟩ := hfits
  have hkidSigned : signed = true ∨ kid = none := hsigned.imp_right And.right
  have hjwtSigned : signed = true ∨ jwtChain headers = none :=
    hsigned.imp_right fun h => by rw [h.1]; rfl
  have hkeySigned : signed = true ∨ signerKey headers = none :=
    hsigned.imp_right fun h => by rw [h.1]; rfl
  have htargetSigned : signed = true ∨ targetKeyId headers = none :=
    hsigned.imp_right fun h => by rw [h.1]; rfl
  let listed : HeaderParts := { alg := some alg, crit := some (critLabels claims headers) }
  let named : HeaderParts := { listed with contentType := some contentType }
  let keyed : HeaderParts := { named with kid := kid }
  have hlisted : Reads (claimsCapableField env signed hdrCrit { alg := some alg })
      (writeLabels (critLabels claims headers)) listed :=
    (reads_crit (critLabels_ne_nil _ _) (fun l hl => critLabels_range hl) hcrit).map fun crit =>
      ({ alg := some alg, crit := some crit } : HeaderParts)
  have hnamed : Reads (claimsCapableField env signed hdrContentType listed) (tstr contentType.1)
      named := reads_validated (reads_str htype _) contentType.new_val
  have hkeyed := fills_signed env signed hdrKid (g := fun o => { named with kid := o })
    hkidSigned rfl fun id hid =>
      reads_validated (reads_bytes (hkid id hid) _) (keyIdFromBytes_bytes id)
  let chained (parts : ClaimsParts) : HeaderParts := { keyed with
    parts := parts
    protectedHeaders := ⟨(jwtChain headers).getD [], none, none⟩ }
  let proven (parts : ClaimsParts) : HeaderParts := { keyed with
    parts := parts
    protectedHeaders := ⟨(jwtChain headers).getD [], signerKey headers, none⟩ }
  have hchained (parts : ClaimsParts) := fills_signed env signed signerCertificatesJwt.code
    (g := fun o => { keyed with parts, protectedHeaders := ⟨o.getD [], none, none⟩ }) hjwtSigned rfl
    fun jwts hmem => (reads_stringArray (hjwt jwts hmem) _).map fun jwts =>
      ({ keyed with parts, protectedHeaders := ⟨jwts, none, none⟩ } : HeaderParts)
  have hproven (parts : ClaimsParts) := fills_signed env signed signerPublicKeyCose.code
    (g := fun o => { chained parts with protectedHeaders := ⟨(jwtChain headers).getD [], o, none⟩ })
    hkeySigned rfl fun key hmem => (reads_bytes (hkey key hmem) _).map fun key =>
      ({ chained parts with
        protectedHeaders := ⟨(jwtChain headers).getD [], some key, none⟩ } : HeaderParts)
  have htargeted (parts : ClaimsParts) := fills_signed env signed operationTargetKeyId.code
    (g := fun o => { chained parts with
      protectedHeaders := ⟨(jwtChain headers).getD [], signerKey headers, o⟩ }) htargetSigned rfl
    fun id hid => reads_validated (reads_bytes (htarget id hid) _) (keyIdFromBytes_bytes id)
  rw [← headersOf_eq] at htargeted
  have hfront := (show Fills (claimsCapableField env signed)
    [(hdrCrit, writeLabels (critLabels claims headers)), (hdrContentType, tstr contentType.1)]
    { alg := some alg } named from ⟨listed, hlisted, named, hnamed, rfl⟩).append hkeyed
  cases claims with
  | none =>
    have hempty : Fills (claimsCapableField env signed) [] keyed { keyed with parts := {} } := rfl
    have hlate : Fills (claimsCapableField env signed) [] (proven {}) (proven {}) := rfl
    exact ⟨{}, rfl, (((((hfront.append hempty).append (hchained {})).append (hproven {})).append
      hlate).append hlate).append (htargeted {})⟩
  | some c =>
    rw [toList_some, flatMap_singleton] at hblock
    obtain ⟨b, hearly⟩ := fills_claims (h := keyed) (hclaims c rfl) (hname c rfl) hblock rfl
    obtain ⟨b', hlate⟩ := fills_lateClaims (hclaims c rfl) hchallenge hresponse (proven {}) b
    refine ⟨_, intoClaims_of_all (hbinding c rfl) b', ?_⟩
    rw [tailEntries, toList_some, flatMap_singleton, bind_some, bind_some,
      append_assoc _ (optEntry freshnessChallenge.code _ _)]
    exact ((((hfront.append hearly).append (hchained _)).append (hproven _)).append hlate).append
      (htargeted _)

/-! ### Whole headers -/

theorem parseHeaderMap_map {field : Int → σ → Decoder σ} {init : σ} {labels : List Int}
    (hlabels : labels.Pairwise Before ∧ ∀ l ∈ labels, InI64 l) (hcount : labels.length ≤ 16)
    (hsub : (entries.map Prod.fst).Sublist labels) (hcanonical : Canonical 2 (map entries))
    (hfits : (map entries).length < 2 ^ 64) (hfill : Fills field entries init out) :
    parseHeaderMap field init (map entries) = .ok out := by
  have hlength : entries.length ≤ 16 := by
    have hle := hsub.length_le
    rw [length_map] at hle
    omega
  have hne : map entries ≠ [] := ne_nil_of_length_pos hcanonical.length_pos
  have hscan : Precheck.scan (map entries) = .ok none :=
    Precheck.scan_canonical (by omega) (by omega) hcanonical (by decide) hfits
  have hread := Reads.bind (f := fun n => readMap field n init)
    (reads_mapLen (show entries.length < 2 ^ 64 by omega))
    (reads_map (hlabels.1.sublist hsub) (fun l hl => hlabels.2 l (hsub.mem hl)) hfill)
  have hexec := congrArg Prod.fst hread.exec
  rw [parseHeaderMap, ensure_pos hne, hscan]
  exact hexec

theorem value_lt_of_map (hfits : (map entries).length < 2 ^ 64) :
    ∀ entry ∈ entries, entry.2.length < 2 ^ 64 := by
  intro entry hentry
  have hle := length_le_of_mem_entries hentry
  rw [map, length_append] at hfits
  omega

theorem parseClaimsCapableHeader_map {alg : Int} (halg : InI64 alg)
    (hsigned : signed = true ∨ headers = none ∧ kid = none)
    (hclaims : ∀ c ∈ claims, c.Admissible env)
    (hbinding : ∀ c ∈ claims, responseKeyBindingMatches env c = true)
    (hname : ∀ c ∈ claims, ∀ id ∈ c.responseKeyId, id.asCatalogName.isSome = true)
    (hresponse : signed = false ∨ claims.bind Claims.responsePublicKeyCose = none)
    (hfits : (map ((hdrAlg, int alg) ::
      tailEntries contentType claims headers kid)).length < 2 ^ 64) :
    parseClaimsCapableHeader env (map ((hdrAlg, int alg) ::
        tailEntries contentType claims headers kid)) signed =
      .ok ⟨alg, some (critLabels claims headers), some contentType, kid, claims,
        headersOf headers⟩ := by
  have hvalues := forall_mem_cons.mp (value_lt_of_map hfits)
  obtain ⟨_, hparts, hfill⟩ := fills_tail alg hsigned hclaims hbinding hname hvalues.2
  have hread : Reads (claimsCapableField env signed hdrAlg {}) (int alg) { alg := some alg } :=
    (reads_int halg _).map fun alg => ({ alg := some alg } : HeaderParts)
  have hparse := parseHeaderMap_map (headerLabels_ordered signed) (by cases signed <;> decide)
    (tailEntries_labels hsigned _) (header_canonical halg hsigned hclaims) hfits
    (show Fills (claimsCapableField env signed) _ {} _ from ⟨_, hread, hfill⟩)
  rw [parseClaimsCapableHeader, hparse]
  simp only [ok_bind, orErr, hparts, ensure_pos hresponse]
  rfl

theorem critLabels_headersOf (claims : Option Claims) (headers : Option ProtectedHeaders) :
    critLabels claims (some (headersOf headers)) = critLabels claims headers := by
  cases headers <;> rfl

theorem finishClaimsCapable_ok {alg : Int} {expectation : ClaimsExpectation}
    (hrequired : expectation = .required → claims ≠ none)
    (hforbidden : expectation = .forbidden → claims = none) :
    finishClaimsCapable ⟨alg, some (critLabels claims headers), some contentType, kid, claims,
      headersOf headers⟩ expectation = .ok () := by
  have hpresent : ¬ (expectation = .required ∧ claims = none) := fun h => hrequired h.1 h.2
  have habsent : ¬ (expectation = .forbidden ∧ claims ≠ none) := fun h => h.2 (hforbidden h.1)
  simp only [finishClaimsCapable, critLabels_headersOf, ensure_pos hpresent, ensure_pos habsent]
  simp [checkCrit, ensure]

/-! ### The outer header of a sealed message -/

theorem outerCrit_eq (headers : Option ProtectedHeaders) :
    outerCrit headers = if (headersOf headers).isEmpty then none
      else some (protectedHeaderCritLabels (some (headersOf headers))) := by
  cases headers with
  | none => rfl
  | some h =>
    show (if (!h.isEmpty) = true then some (protectedHeaderCritLabels (some h)) else none) =
      if h.isEmpty = true then none else some (protectedHeaderCritLabels (some h))
    cases h.isEmpty <;> rfl

theorem protectedHeaderCritLabels_ne_nil {headers : ProtectedHeaders} (h : headers.isEmpty = false) :
    protectedHeaderCritLabels (some headers) ≠ [] := by
  obtain ⟨jwts, key, target⟩ := headers
  intro hnil
  have hlength := congrArg List.length hnil
  simp only [protectedHeaderCritLabels, sortLabels, length_mergeSort, length_append,
    length_present, length_nil, jwtChain, signerKey, targetKeyId, bind_some] at hlength
  cases jwts <;> cases key <;> cases target <;> simp_all [ProtectedHeaders.isEmpty]

theorem outerCrit_some {crit : List Int} (h : outerCrit headers = some crit) :
    crit ≠ [] ∧ ∀ l ∈ crit, InI64 l := by
  rw [outerCrit_eq] at h
  split_ifs at h with hempty
  cases h
  exact ⟨protectedHeaderCritLabels_ne_nil (Bool.eq_false_iff.mpr hempty),
    fun l hl => protectedHeaderCritLabels_range hl⟩

theorem fills_outer {algorithm : SignatureAlgorithm} {kid : KeyId}
    (hfits : ∀ entry ∈ outerEntries algorithm kid headers, entry.2.length < 2 ^ 64) :
    Fills sealedOuterField (outerEntries algorithm kid headers) {} {
      alg := some algorithm.codepoint
      crit := outerCrit headers
      kid := some kid
      protectedHeaders := headersOf headers } := by
  simp only [outerEntries, forall_mem_append, forall_mem_optEntry, mem_singleton,
    forall_eq] at hfits
  obtain ⟨⟨⟨⟨⟨-, hcrit⟩, hkid⟩, hjwt⟩, hkey⟩, htarget⟩ := hfits
  let coded : HeaderParts := { alg := some algorithm.codepoint }
  let listed : HeaderParts := { coded with crit := outerCrit headers }
  let keyed : HeaderParts := { listed with kid := some kid }
  have hcoded : Reads (sealedOuterField hdrAlg {}) (int algorithm.codepoint) coded :=
    (reads_int (codepoint_range algorithm) _).map fun alg => ({ alg := some alg } : HeaderParts)
  have hlisted := fills_optEntry sealedOuterField hdrCrit (g := fun o => { coded with crit := o })
    rfl fun crit hmem => (reads_crit (outerCrit_some hmem).1 (outerCrit_some hmem).2
      (hcrit crit hmem)).map fun crit => ({ coded with crit := some crit } : HeaderParts)
  have hkeyed : Reads (sealedOuterField hdrKid listed) (bstr kid.bytes) keyed :=
    reads_validated (reads_bytes hkid _) (keyIdFromBytes_bytes kid)
  have hchained := fills_optEntry sealedOuterField signerCertificatesJwt.code
    (g := fun o => { keyed with protectedHeaders := ⟨o.getD [], none, none⟩ }) rfl fun jwts hmem =>
      (reads_stringArray (hjwt jwts hmem) _).map fun jwts =>
        ({ keyed with protectedHeaders := ⟨jwts, none, none⟩ } : HeaderParts)
  have hproven := fills_optEntry sealedOuterField signerPublicKeyCose.code
    (g := fun o => { keyed with protectedHeaders := ⟨(jwtChain headers).getD [], o, none⟩ }) rfl
    fun key hmem => (reads_bytes (hkey key hmem) _).map fun key =>
      ({ keyed with
        protectedHeaders := ⟨(jwtChain headers).getD [], some key, none⟩ } : HeaderParts)
  have htargeted := fills_optEntry sealedOuterField operationTargetKeyId.code
    (g := fun o => { keyed with
      protectedHeaders := ⟨(jwtChain headers).getD [], signerKey headers, o⟩ }) rfl fun id hid =>
      reads_validated (reads_bytes (htarget id hid) _) (keyIdFromBytes_bytes id)
  rw [← headersOf_eq] at htargeted
  exact (((((fills_single hcoded).append hlisted).append (fills_single hkeyed)).append hchained).append
    hproven).append htargeted

theorem parseSealedOuterProtected_map {algorithm : SignatureAlgorithm} {kid : KeyId}
    (hfits : (map (outerEntries algorithm kid headers)).length < 2 ^ 64) :
    parseSealedOuterProtected (map (outerEntries algorithm kid headers)) =
      .ok (algorithm, kid, headersOf headers) := by
  have hparse := parseHeaderMap_map (show outerLabels.Pairwise Before ∧ ∀ l ∈ outerLabels, InI64 l by decide)
    (by decide) (outerEntries_labels algorithm kid headers) (outer_canonical algorithm kid headers) hfits
    (fills_outer (value_lt_of_map hfits))
  rw [parseSealedOuterProtected, hparse]
  simp only [ok_bind, orErr, SignatureAlgorithm.fromCodepoint_codepoint, outerCrit_eq]
  cases (headersOf headers).isEmpty
  · simp [checkCrit]
  · simp [ensure]

/-! ### Recipients -/

structure KdfParties.Admissible (parties : KdfParties) : Prop where
  partyU : ∀ id ∈ parties.partyU, id ≠ []
  partyV : ∀ id ∈ parties.partyV, id ≠ []

theorem partyCrit_some {parties : KdfParties} {crit : List Int} (h : crit ∈ partyCrit parties) :
    crit ≠ [] ∧ ∀ l ∈ crit, InI64 l := by
  unfold partyCrit at h
  split_ifs at h with hne
  · cases h
  · obtain rfl := mem_some_iff.mp h
    exact ⟨hne, fun l hl => partyLabels_range hl⟩

theorem fills_recipient {parties : KdfParties} (hparties : parties.Admissible)
    (hfits : ∀ entry ∈ recipientEntries parties, entry.2.length < 2 ^ 64) :
    Fills recipientField (recipientEntries parties) {} {
      alg := some ecdhEsHkdf256.codepoint
      crit := partyCrit parties
      parties := parties } := by
  simp only [recipientEntries, forall_mem_append, forall_mem_optEntry, mem_singleton,
    forall_eq] at hfits
  obtain ⟨⟨⟨-, hcrit⟩, hu⟩, hv⟩ := hfits
  let coded : RecipientParts := { alg := some ecdhEsHkdf256.codepoint }
  let listed : RecipientParts := { coded with crit := partyCrit parties }
  have hcoded : Reads (recipientField hdrAlg {})
      (int ecdhEsHkdf256.codepoint) coded :=
    Reads.map (fun alg => ({ alg := some alg } : RecipientParts)) (reads_int (by decide) _)
  have hlisted := fills_optEntry recipientField hdrCrit (g := fun o => { coded with crit := o })
    rfl fun crit hmem => (reads_crit (partyCrit_some hmem).1 (partyCrit_some hmem).2
      (hcrit crit hmem)).map fun crit => ({ coded with crit := some crit } : RecipientParts)
  have hsender := fills_optEntry recipientField hdrPartyUIdentity
    (g := fun o => { listed with parties := ⟨o, none⟩ }) rfl fun id hid =>
      reads_validated (reads_bytes (hu id hid) _) (partyIdentityFromBytes_ok (hparties.partyU id hid))
  have hrecipient := fills_optEntry recipientField hdrPartyVIdentity
    (g := fun o => { listed with parties := ⟨parties.partyU, o⟩ }) rfl fun id hid =>
      reads_validated (reads_bytes (hv id hid) _) (partyIdentityFromBytes_ok (hparties.partyV id hid))
  exact (((fills_single hcoded).append hlisted).append hsender).append hrecipient

theorem parseRecipientProtected_map {parties : KdfParties} (hparties : parties.Admissible)
    (hfits : (map (recipientEntries parties)).length < 2 ^ 64) :
    parseRecipientProtected (map (recipientEntries parties)) = .ok parties := by
  have hparse := parseHeaderMap_map
    (show recipientLabels.Pairwise Before ∧ ∀ l ∈ recipientLabels, InI64 l by decide) (by decide)
    (recipientEntries_labels parties) (recipient_canonical parties) hfits
    (fills_recipient hparties (value_lt_of_map hfits))
  have halg : fromCodepoint ecdhEsHkdf256.codepoint ≠ none := by
    decide
  rw [parseRecipientProtected, hparse]
  simp only [ok_bind, orErr, ensure_pos halg, partyCrit]
  by_cases hempty : partyLabels parties = []
  · simp [hempty]
  · simp [hempty, checkCrit]

theorem bstr_fixed_lt {n : Nat} (x : FixedBytes n) (hn : n < 2 ^ 32) : (bstr x.bytes).length < 2 ^ 64 := by
  have hhead : (head 2 n).length ≤ 9 := by
    unfold head
    split_ifs <;> simp [length_beBytes]
  rw [bstr, length_append, x.length_eq]
  omega

def ephemeralEntries (x : FixedBytes 32) : List (Int × Bytes) :=
  [(1, int 1), (-1, int 4), (-2, bstr x.bytes)]

theorem writeEphemeralKey_eq (x : FixedBytes 32) : writeEphemeralKey x = map (ephemeralEntries x) := by
  rw [map, ephemeralEntries, writeEphemeralKey]
  simp

theorem fills_ephemeral (x : FixedBytes 32) : Fills ephemeralField (ephemeralEntries x) {}
    { ktyOk := true, crvOk := true, x := some x } := by
  have hkty : Reads (ephemeralField 1 {}) (int 1) { ktyOk := true } :=
    Reads.map (fun kty : Int => ({ ktyOk := kty == 1 } : EphemeralParts)) (reads_int (by decide) _)
  have hcrv : Reads (ephemeralField (-1) { ktyOk := true }) (int 4) { ktyOk := true, crvOk := true } :=
    Reads.map (fun crv : Int => ({ ktyOk := true, crvOk := crv == 4 } : EphemeralParts))
      (reads_int (by decide) _)
  have hkey : Reads (ephemeralField (-2) { ktyOk := true, crvOk := true }) (bstr x.bytes)
      { ktyOk := true, crvOk := true, x := some x } := by
    have hfixed : orErr (FixedBytes.ofBytes? 32 x.bytes) .ephemeralKeyShape =
        (.ok x : Except DecodeError _) := by
      rw [FixedBytes.ofBytes?_bytes]
      rfl
    have hall := Reads.bind (f := fun raw => Proc.check (orErr (FixedBytes.ofBytes? 32 raw)
      .ephemeralKeyShape) >>= fun x => pure ({ ktyOk := true, crvOk := true, x := some x } : EphemeralParts))
      (reads_bytes (bstr_fixed_lt x (by decide)) (-2)) (Reads.check_bind hfixed (reads_pure _))
    rwa [append_nil] at hall
  exact ⟨_, hkty, _, hcrv, _, hkey, rfl⟩

theorem reads_ephemeralKey (x : FixedBytes 32) : Reads parseEphemeralKey (writeEphemeralKey x) x := by
  have hlength : Reads (typed (fun t => ensure (t = .map) .ephemeralKeyShape) (readLength 5))
      (mapHead 3) (some 3) :=
    reads_typed (fun rest => datatype_head rest (by decide) (by decide)) rfl
      fun rest => readLength_head rest (by decide) (by decide)
  have hmap := reads_map (show ((ephemeralEntries x).map Prod.fst).Pairwise Before from
    show [(1 : Int), -1, -2].Pairwise Before by decide)
    (show ∀ l ∈ [(1 : Int), -1, -2], InI64 l by decide) (fills_ephemeral x)
  rw [writeEphemeralKey_eq]
  refine Reads.bind hlength (Reads.check_bind rfl (Reads.check_bind rfl ?_))
  have hall := Reads.bind (f := fun key : EphemeralParts =>
    Proc.check (ensure (key.ktyOk = true ∧ key.crvOk = true) .ephemeralKeyShape) >>= fun _ =>
      Proc.check (orErr key.x .ephemeralKeyShape)) hmap (Reads.check_bind rfl (reads_check rfl))
  rwa [append_nil] at hall

/-! ### Unprotected headers -/

theorem reads_unprotectedField {onEntry : Int → σ → Decoder (Option σ)} {acc : σ} {w : Bytes}
    (hl : l ∉ claimLabels) (h : Reads (onEntry l acc) w (some out)) :
    Reads (unprotectedField onEntry l acc) w out := by
  have hall : Reads (unprotectedField onEntry l acc) (w ++ []) out :=
    Reads.check_bind (ensure_pos hl _) (Reads.bind h (reads_pure out))
  rwa [append_nil] at hall

theorem reads_unprotected {onEntry : Int → σ → Decoder (Option σ)} {init : σ}
    (hlabels : (entries.map Prod.fst).Pairwise Before)
    (hrange : ∀ l ∈ entries.map Prod.fst, InI64 l) (hcount : entries.length ≤ 16)
    (h : Fills (unprotectedField onEntry) entries init out) :
    Reads (parseUnprotected onEntry init) (map entries) out :=
  Reads.bind (reads_mapLen (by omega)) (reads_map hlabels hrange h)

end Basil.Cose
