import Basil.CoseReads

/-!
# Headers entry by entry

A header as a map of labelled entries, which the loop of the decoder takes back one by one.
-/

namespace Basil.Cose

open Option

open List hiding map

open Cbor Label Registered

variable (env : CoseEnv)

structure Claims.Admissible (claims : Claims) : Prop where
  issuedAt : InI64 claims.issuedAt
  expiresAt : ∀ exp ∈ claims.expiresAt, InI64 exp
  responseSubject : ∀ subject ∈ claims.responseSubject, subject ≠ ""
  responseKey : ∀ key ∈ claims.responsePublicKeyCose, ResponseKey.fromPublicBytes env key = .ok key

/-! ### The entries of each header -/

def cwtEntries (c : Claims) : List (Int × Bytes) :=
  optEntry cwtIss (fun issuer : Subject => tstr issuer.1) c.issuer ++
    optEntry cwtAud (fun audience : Subject => tstr audience.1) c.audience ++
    optEntry cwtExp int c.expiresAt ++
    [(cwtIat, int c.issuedAt), (cwtCti, bstr c.messageId.1)]

def claimsEntries (c : Claims) : List (Int × Bytes) :=
  [(hdrCwtClaims, map (cwtEntries c))] ++
    optEntry inReplyTo.code (fun id : MessageId => bstr id.1) c.inReplyTo ++
    optEntry requestHash.code (fun hash : FixedBytes 32 => bstr hash.bytes) c.requestHash ++
    optEntry senderKeyId.code (fun id : KeyId => bstr id.bytes) c.senderKeyId ++
    optEntry responseKeyId.code tstr (c.responseKeyId.bind KeyId.asCatalogName) ++
    optEntry responseSubject.code tstr c.responseSubject

def tailEntries (contentType : ContentType) (claims : Option Claims)
    (headers : Option ProtectedHeaders) (kid : Option KeyId) : List (Int × Bytes) :=
  [(hdrCrit, writeLabels (critLabels claims headers)),
    (hdrContentType, tstr contentType.1)] ++
    optEntry hdrKid (fun id : KeyId => bstr id.bytes) kid ++
    (claims.toList.flatMap claimsEntries) ++
    optEntry signerCertificatesJwt.code writeTexts (jwtChain headers) ++
    optEntry signerPublicKeyCose.code bstr (signerKey headers) ++
    optEntry freshnessChallenge.code (fun challenge : FixedBytes 32 => bstr challenge.bytes)
      (claims.bind Claims.freshnessChallenge) ++
    optEntry responsePublicKeyCose.code
      (fun key : FixedBytes 32 => bstr (ResponseKey.toCoseKeyBytes key))
      (claims.bind Claims.responsePublicKeyCose) ++
    optEntry operationTargetKeyId.code (fun id : KeyId => bstr id.bytes) (targetKeyId headers)

def outerEntries (algorithm : SignatureAlgorithm) (kid : KeyId) (headers : Option ProtectedHeaders) :
    List (Int × Bytes) :=
  [(hdrAlg, int algorithm.codepoint)] ++
    optEntry hdrCrit writeLabels (outerCrit headers) ++
    [(hdrKid, bstr kid.bytes)] ++
    optEntry signerCertificatesJwt.code writeTexts (jwtChain headers) ++
    optEntry signerPublicKeyCose.code bstr (signerKey headers) ++
    optEntry operationTargetKeyId.code (fun id : KeyId => bstr id.bytes) (targetKeyId headers)

def recipientEntries (parties : KdfParties) : List (Int × Bytes) :=
  [(hdrAlg, int KeyAgreementAlgorithm.ecdhEsHkdf256.codepoint)] ++
    optEntry hdrCrit writeLabels (partyCrit parties) ++
    optEntry hdrPartyUIdentity bstr parties.partyU ++
    optEntry hdrPartyVIdentity bstr parties.partyV

/-! ### The encoder writes these entries -/

variable {α : Type} {claims : Option Claims} {bytes : Bytes} {c : Claims}
  {contentType : ContentType} {headers : Option ProtectedHeaders} {kid : Option KeyId}
  {signed : Bool} {labels : List Int} {l : Int}

@[simp] theorem writeEntries_optEntry (l : Int) (value : α → Bytes) (o : Option α) :
    writeEntries int (optEntry l value o) = writeField l value o := by
  cases o with
  | none => rfl
  | some a => exact append_nil _

theorem writeCwtMap_eq (c : Claims) : writeCwtMap c = map (cwtEntries c) := by
  have hcount : (cwtEntries c).length =
      2 + c.issuer.isSome.toNat + c.audience.isSome.toNat + c.expiresAt.isSome.toNat := by
    simp only [cwtEntries, length_append, length_optEntry, length_cons, length_nil]
    omega
  rw [map, hcount, writeCwtMap, cwtEntries]
  simp

theorem length_present (o : Option α) (l : Int) : (present o l).length = o.isSome.toNat := by
  cases o <;> rfl

theorem writeClaims_ok (h : writeClaims claims = .ok bytes) :
    bytes = writeEntries int (claims.toList.flatMap claimsEntries) ∧
      ∀ c ∈ claims, ∀ id ∈ c.responseKeyId, id.asCatalogName.isSome = true := by
  cases claims with
  | none =>
    cases h
    exact ⟨rfl, fun c hc => by cases hc⟩
  | some c =>
    simp only [writeClaims, eq_ok] at h
    obtain ⟨keyBytes, hkey, rfl⟩ := h
    obtain ⟨hbytes, hname⟩ : keyBytes = writeField responseKeyId.code tstr
        (c.responseKeyId.bind KeyId.asCatalogName) ∧
        ∀ id ∈ c.responseKeyId, id.asCatalogName.isSome = true := by
      cases hid : c.responseKeyId with
      | none =>
        rw [hid] at hkey
        cases hkey
        exact ⟨rfl, fun id hmem => by cases hmem⟩
      | some id =>
        simp only [hid, writeResponseKeyId, eq_ok] at hkey
        obtain ⟨_, hname, rfl⟩ := hkey
        refine ⟨?_, fun id' hmem => ?_⟩
        · rw [bind_some, hname]
          rfl
        · obtain rfl := mem_some_iff.mp hmem
          rw [hname]
          rfl
    refine ⟨?_, fun c' hc' => ?_⟩
    · rw [hbytes, toList_some, flatMap_singleton, claimsEntries, writeCwtMap_eq]
      simp
    · obtain rfl := mem_some_iff.mp hc'
      exact hname

theorem length_claimsEntries (hname : ∀ id ∈ c.responseKeyId, id.asCatalogName.isSome = true) :
    (claimsEntries c).length + c.freshnessChallenge.isSome.toNat +
      c.responsePublicKeyCose.isSome.toNat = 1 + (basilLabels c).length := by
  have hkey : (c.responseKeyId.bind KeyId.asCatalogName).isSome = c.responseKeyId.isSome := by
    cases hid : c.responseKeyId with
    | none => rfl
    | some id => exact hname id hid
  simp only [basilLabels, claimsEntries, length_append, length_present, length_optEntry,
    length_singleton, hkey]
  omega

theorem writeClaimsCapableTail_ok
    (h : writeClaimsCapableTail contentType claims headers kid = .ok bytes) :
    bytes = writeEntries int (tailEntries contentType claims headers kid) ∧
      (tailEntries contentType claims headers kid).length =
        claimsCapableTailLen claims headers + kid.isSome.toNat ∧
      ∀ c ∈ claims, ∀ id ∈ c.responseKeyId, id.asCatalogName.isSome = true := by
  simp only [writeClaimsCapableTail, eq_ok] at h
  obtain ⟨_, hclaims, rfl⟩ := h
  obtain ⟨rfl, hname⟩ := writeClaims_ok hclaims
  refine ⟨?_, ?_, hname⟩
  · rw [tailEntries]
    simp
  · simp only [tailEntries, claimsCapableTailLen, length_append, length_optEntry,
      length_cons, length_nil]
    cases claims with
    | none =>
      simp only [toList_none, flatMap_nil, length_nil, bind_none,
        isSome_none, Bool.toNat_false]
      omega
    | some c =>
      have hlength := length_claimsEntries (hname c rfl)
      simp only [toList_some, flatMap_singleton, bind_some]
      omega

theorem map_tailEntries (algorithm : Int)
    (h : writeClaimsCapableTail contentType claims headers kid = .ok bytes) :
    map ((hdrAlg, int algorithm) :: tailEntries contentType claims headers kid) =
      mapHead (1 + kid.isSome.toNat + claimsCapableTailLen claims headers) ++
        (int hdrAlg ++ int algorithm) ++ bytes := by
  obtain ⟨rfl, hlength, -⟩ := writeClaimsCapableTail_ok h
  rw [map, length_cons, hlength, writeEntries_cons, Nat.add_comm, ← Nat.add_assoc,
    Nat.add_right_comm]
  simp

theorem encodeSign1ProtectedBare_ok {algorithm : SignatureAlgorithm} {kid : KeyId}
    (h : encodeSign1ProtectedBareWithHeaders env algorithm kid contentType claims headers = .ok bytes) :
    bytes = map ((hdrAlg, int algorithm.codepoint) ::
        tailEntries contentType claims headers (some kid)) ∧
      (∀ c ∈ claims, responseKeyBindingMatches env c = true) ∧
      ∀ c ∈ claims, ∀ id ∈ c.responseKeyId, id.asCatalogName.isSome = true := by
  simp only [encodeSign1ProtectedBareWithHeaders, eq_ok] at h
  obtain ⟨-, hbinding, _, htail, rfl⟩ := h
  exact ⟨(map_tailEntries _ htail).symm, hbinding, (writeClaimsCapableTail_ok htail).2.2⟩

theorem encodeEncryptProtected_ok {algorithm : ContentAlgorithm}
    (h : encodeEncryptProtected env algorithm contentType claims = .ok bytes) :
    bytes = map ((hdrAlg, int algorithm.codepoint) ::
        tailEntries contentType claims none none) ∧
      (∀ c ∈ claims, responseKeyBindingMatches env c = true) ∧
      ∀ c ∈ claims, ∀ id ∈ c.responseKeyId, id.asCatalogName.isSome = true := by
  simp only [encodeEncryptProtected, eq_ok] at h
  obtain ⟨-, hbinding, _, htail, rfl⟩ := h
  exact ⟨(map_tailEntries _ htail).symm, hbinding, (writeClaimsCapableTail_ok htail).2.2⟩

theorem encodeSign1ProtectedSealedOuter_eq (algorithm : SignatureAlgorithm) (kid : KeyId)
    (headers : Option ProtectedHeaders) :
    encodeSign1ProtectedSealedOuterWithHeaders algorithm kid headers =
      map (outerEntries algorithm kid headers) := by
  have hcount : (outerEntries algorithm kid headers).length =
      2 + (outerCrit headers).isSome.toNat + (jwtChain headers).isSome.toNat +
        (signerKey headers).isSome.toNat + (targetKeyId headers).isSome.toNat := by
    simp only [outerEntries, length_append, length_optEntry, length_singleton]
    omega
  rw [map, hcount, encodeSign1ProtectedSealedOuterWithHeaders, outerEntries]
  simp

theorem encodeRecipientProtected_eq (parties : KdfParties) :
    encodeRecipientProtected parties = map (recipientEntries parties) := by
  have hcount : (recipientEntries parties).length =
      1 + (partyCrit parties).isSome.toNat + (partyLabels parties).length := by
    simp only [recipientEntries, partyLabels, length_append, length_optEntry, length_present,
      length_singleton]
    omega
  rw [map, hcount, encodeRecipientProtected, recipientEntries]
  simp

/-! ### Labels in order -/

def headerLabels (signed : Bool) : List Int :=
  [hdrAlg] ++ [hdrCrit, hdrContentType] ++ (if signed then [hdrKid] else []) ++
    ([hdrCwtClaims] ++ [inReplyTo.code] ++ [requestHash.code] ++
      [senderKeyId.code] ++ [responseKeyId.code] ++ [responseSubject.code]) ++
    (if signed then [signerCertificatesJwt.code] else []) ++
    (if signed then [signerPublicKeyCose.code] else []) ++ [freshnessChallenge.code] ++
    [responsePublicKeyCose.code] ++ (if signed then [operationTargetKeyId.code] else [])

def cwtLabels : List Int :=
  [cwtIss] ++ [cwtAud] ++ [cwtExp] ++ [cwtIat, cwtCti]

def outerLabels : List Int :=
  [hdrAlg] ++ [hdrCrit] ++ [hdrKid] ++ [signerCertificatesJwt.code] ++
    [signerPublicKeyCose.code] ++ [operationTargetKeyId.code]

def recipientLabels : List Int :=
  [hdrAlg] ++ [hdrCrit] ++ [hdrPartyUIdentity] ++ [hdrPartyVIdentity]

theorem headerLabels_ordered (signed : Bool) :
    (headerLabels signed).Pairwise Before ∧ ∀ l ∈ headerLabels signed, InI64 l := by
  cases signed <;> decide

theorem cwtEntries_labels (c : Claims) : ((cwtEntries c).map Prod.fst).Sublist cwtLabels := by
  simp only [cwtEntries, map_append]
  exact (((labels_optEntry ..).append (labels_optEntry ..)).append (labels_optEntry ..)).append
    (List.Sublist.refl _)

theorem claimsEntries_labels (c : Claims) : ((claimsEntries c).map Prod.fst).Sublist
    ([hdrCwtClaims] ++ [inReplyTo.code] ++ [requestHash.code] ++
      [senderKeyId.code] ++ [responseKeyId.code] ++ [responseSubject.code]) := by
  simp only [claimsEntries, map_append]
  exact (((((List.Sublist.refl _).append (labels_optEntry ..)).append (labels_optEntry ..)).append
    (labels_optEntry ..)).append (labels_optEntry ..)).append (labels_optEntry ..)

theorem labels_signed {o : Option α} (h : signed = true ∨ o = none) (l : Int) (value : α → Bytes) :
    ((optEntry l value o).map Prod.fst).Sublist (if signed then [l] else []) := by
  obtain rfl | rfl := h
  · exact labels_optEntry l value o
  · exact nil_sublist _

theorem tailEntries_labels (h : signed = true ∨ headers = none ∧ kid = none) (alg : Bytes) :
    (((hdrAlg, alg) :: tailEntries contentType claims headers kid).map Prod.fst).Sublist
      (headerLabels signed) := by
  have hkid : signed = true ∨ kid = none := h.imp_right And.right
  have hjwt : signed = true ∨ jwtChain headers = none := h.imp_right fun h => by rw [h.1]; rfl
  have hkey : signed = true ∨ signerKey headers = none := h.imp_right fun h => by rw [h.1]; rfl
  have htarget : signed = true ∨ targetKeyId headers = none := h.imp_right fun h => by rw [h.1]; rfl
  have hclaims : ((claims.toList.flatMap claimsEntries).map Prod.fst).Sublist
      ([hdrCwtClaims] ++ [inReplyTo.code] ++ [requestHash.code] ++
        [senderKeyId.code] ++ [responseKeyId.code] ++ [responseSubject.code]) := by
    cases claims with
    | none => exact nil_sublist _
    | some c =>
      rw [toList_some, flatMap_singleton]
      exact claimsEntries_labels c
  have hcons : ((hdrAlg, alg) :: tailEntries contentType claims headers kid) =
      [(hdrAlg, alg)] ++ tailEntries contentType claims headers kid := rfl
  rw [hcons, tailEntries]
  simp only [← append_assoc, map_append]
  exact (((((((((List.Sublist.refl _).append (List.Sublist.refl _)).append (labels_signed hkid ..)).append
    hclaims).append (labels_signed hjwt ..)).append (labels_signed hkey ..)).append
    (labels_optEntry ..)).append (labels_optEntry ..)).append (labels_signed htarget ..))

theorem outerEntries_labels (algorithm : SignatureAlgorithm) (kid : KeyId)
    (headers : Option ProtectedHeaders) :
    ((outerEntries algorithm kid headers).map Prod.fst).Sublist outerLabels := by
  simp only [outerEntries, map_append]
  exact (((((List.Sublist.refl _).append (labels_optEntry ..)).append (List.Sublist.refl _)).append
    (labels_optEntry ..)).append (labels_optEntry ..)).append (labels_optEntry ..)

theorem recipientEntries_labels (parties : KdfParties) :
    ((recipientEntries parties).map Prod.fst).Sublist recipientLabels := by
  simp only [recipientEntries, map_append]
  exact (((List.Sublist.refl _).append (labels_optEntry ..)).append (labels_optEntry ..)).append
    (labels_optEntry ..)

/-! ### Deterministic values -/

theorem canonical_map {entries : List (Int × Bytes)} {depth : Nat}
    (hlabels : labels.Pairwise Before ∧ ∀ l ∈ labels, InI64 l)
    (hsub : (entries.map Prod.fst).Sublist labels)
    (hvalues : ∀ entry ∈ entries, Canonical depth entry.2) : Canonical (depth + 1) (map entries) :=
  .map (hlabels.1.sublist hsub) (fun l hl => hlabels.2 l (hsub.mem hl)) hvalues

theorem canonical_writeLabels (h : ∀ l ∈ labels, InI64 l) : Canonical 1 (writeLabels labels) := by
  have hitems : ∀ item ∈ labels.map int, Canonical 0 item := by
    intro item hitem
    obtain ⟨l, hl, rfl⟩ := mem_map.mp hitem
    exact .int (h l hl)
  have harray := Canonical.array hitems
  rwa [array, length_map] at harray

theorem canonical_writeTexts (texts : List String) : Canonical 1 (writeTexts texts) := by
  have hitems : ∀ item ∈ texts.map tstr, Canonical 0 item := by
    intro item hitem
    obtain ⟨s, -, rfl⟩ := mem_map.mp hitem
    exact .tstr s
  have harray := Canonical.array hitems
  rwa [array, length_map] at harray

theorem mem_present {o : Option α} {label : Int} (h : l ∈ present o label) : l = label := by
  unfold present at h
  split_ifs at h
  · exact mem_singleton.mp h
  · cases h

theorem mem_sortLabels : l ∈ sortLabels labels ↔ l ∈ labels :=
  mem_mergeSort

theorem protectedHeaderCritLabels_range (h : l ∈ protectedHeaderCritLabels headers) : InI64 l := by
  simp only [protectedHeaderCritLabels, mem_sortLabels, mem_append] at h
  obtain (h | h) | h := h <;> rw [mem_present h] <;> decide

theorem basilLabels_range (h : l ∈ basilLabels c) : InI64 l := by
  simp only [basilLabels, mem_append] at h
  obtain (((((h | h) | h) | h) | h) | h) | h := h <;> rw [mem_present h] <;> decide

theorem critLabels_range (h : l ∈ critLabels claims headers) : InI64 l := by
  simp only [critLabels, mem_sortLabels, mem_append, mem_singleton] at h
  obtain (rfl | h) | h := h
  · decide
  · cases claims with
    | none => cases h
    | some c =>
      obtain rfl | h := mem_cons.mp h
      · decide
      · exact basilLabels_range h
  · exact protectedHeaderCritLabels_range h

theorem critLabels_ne_nil (claims : Option Claims) (headers : Option ProtectedHeaders) :
    critLabels claims headers ≠ [] := by
  have hmem : hdrContentType ∈ critLabels claims headers := by
    simp [critLabels, mem_sortLabels]
  exact ne_nil_of_mem hmem

variable {env}

theorem Claims.Admissible.cwt_canonical (h : c.Admissible env) :
    Canonical 1 (map (cwtEntries c)) := by
  refine canonical_map (by decide) (cwtEntries_labels c) ?_
  simp only [cwtEntries, forall_mem_append, forall_mem_optEntry, forall_mem_cons]
  refine ⟨⟨⟨fun issuer _ => .tstr _, fun audience _ => .tstr _⟩, fun exp hexp => ?_⟩, ?_, ?_, ?_⟩
  · exact .int (h.expiresAt exp hexp)
  · exact .int h.issuedAt
  · exact .bstr _
  · exact nofun

theorem claimsEntries_canonical (h : c.Admissible env) :
    ∀ entry ∈ claimsEntries c, Canonical 1 entry.2 := by
  simp only [claimsEntries, forall_mem_append, forall_mem_optEntry, mem_singleton, forall_eq]
  exact ⟨⟨⟨⟨⟨h.cwt_canonical, fun id _ => .bstr _⟩, fun hash _ => .bstr _⟩, fun id _ => .bstr _⟩,
    fun name _ => .tstr _⟩, fun subject _ => .tstr _⟩

theorem tailEntries_canonical (h : ∀ c ∈ claims, c.Admissible env) :
    ∀ entry ∈ tailEntries contentType claims headers kid, Canonical 1 entry.2 := by
  have hclaims : ∀ entry ∈ claims.toList.flatMap claimsEntries, Canonical 1 entry.2 := by
    intro entry hentry
    obtain ⟨c, hc, hmem⟩ := mem_flatMap.mp hentry
    exact claimsEntries_canonical (h c (mem_toList.mp hc)) entry hmem
  simp only [tailEntries, forall_mem_append, forall_mem_optEntry, forall_mem_cons]
  refine ⟨⟨⟨⟨⟨⟨⟨⟨?_, .tstr _, ?_⟩, fun id _ => .bstr _⟩, hclaims⟩, fun jwts _ => ?_⟩,
    fun key _ => .bstr _⟩, fun challenge _ => .bstr _⟩, fun key _ => .bstr _⟩, fun id _ => .bstr _⟩
  · exact canonical_writeLabels fun l hl => critLabels_range hl
  · exact nofun
  · exact canonical_writeTexts jwts

theorem codepoint_range (algorithm : SignatureAlgorithm) : InI64 algorithm.codepoint := by
  cases algorithm <;> decide

theorem contentCodepoint_range (algorithm : ContentAlgorithm) : InI64 algorithm.codepoint := by
  cases algorithm <;> decide

theorem header_canonical {alg : Int} (halg : InI64 alg)
    (hsigned : signed = true ∨ headers = none ∧ kid = none) (h : ∀ c ∈ claims, c.Admissible env) :
    Canonical 2 (map ((hdrAlg, int alg) :: tailEntries contentType claims headers kid)) := by
  refine canonical_map (headerLabels_ordered signed) (tailEntries_labels hsigned _) ?_
  rw [forall_mem_cons]
  exact ⟨.int halg, tailEntries_canonical h⟩

theorem outer_canonical (algorithm : SignatureAlgorithm) (kid : KeyId)
    (headers : Option ProtectedHeaders) : Canonical 2 (map (outerEntries algorithm kid headers)) := by
  refine canonical_map (by decide) (outerEntries_labels algorithm kid headers) ?_
  simp only [outerEntries, forall_mem_append, forall_mem_optEntry, mem_singleton, forall_eq]
  refine ⟨⟨⟨⟨⟨.int (codepoint_range _), fun crit hcrit => ?_⟩, .bstr _⟩,
    fun jwts _ => canonical_writeTexts jwts⟩, fun key _ => .bstr _⟩, fun id _ => .bstr _⟩
  unfold outerCrit at hcrit
  split_ifs at hcrit
  · obtain rfl := mem_some_iff.mp hcrit
    exact canonical_writeLabels fun l hl => protectedHeaderCritLabels_range hl
  · cases hcrit

theorem partyLabels_range {parties : KdfParties} (h : l ∈ partyLabels parties) : InI64 l := by
  simp only [partyLabels, mem_append] at h
  obtain h | h := h <;> rw [mem_present h] <;> decide

theorem recipient_canonical (parties : KdfParties) : Canonical 2 (map (recipientEntries parties)) := by
  refine canonical_map (by decide) (recipientEntries_labels parties) ?_
  simp only [recipientEntries, forall_mem_append, forall_mem_optEntry, mem_singleton, forall_eq]
  refine ⟨⟨⟨.int (by decide), fun crit hcrit => ?_⟩, fun id _ => .bstr _⟩, fun id _ => .bstr _⟩
  unfold partyCrit at hcrit
  split_ifs at hcrit
  · cases hcrit
  · obtain rfl := mem_some_iff.mp hcrit
    exact canonical_writeLabels fun l hl => partyLabels_range hl

end Basil.Cose
