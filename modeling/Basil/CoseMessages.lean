import Basil.CoseParse

/-!
# Whole messages

An assembled message is one deterministic item, the decoder takes its parts back, and strict
decoding gives the fields its headers were encoded from.
-/

namespace Basil.Cose

open List hiding map head

open Cbor Label Registered

variable {env : CoseEnv}

/-! ### Signed messages -/

theorem assembleSign1_eq (protectedBytes payload signature : Bytes) :
    assembleSign1 protectedBytes payload signature =
      tagHead tagSign1 ++ array [bstr protectedBytes, map [], bstr payload, bstr signature] := by
  simp [assembleSign1, array, map]

theorem assembleSign1_canonical (protectedBytes payload signature : Bytes) :
    Canonical 3 (assembleSign1 protectedBytes payload signature) := by
  have hempty : Canonical 1 (map []) :=
    .map .nil nofun nofun
  rw [assembleSign1_eq]
  refine .tag (by decide) (.array ?_)
  simp only [forall_mem_cons]
  exact ⟨.bstr _, hempty, .bstr _, .bstr _, nofun⟩

variable {protectedBytes : Bytes} {algorithm : SignatureAlgorithm} {kid : KeyId}
  {claims : Option Claims}

theorem reads_sign1 {payload signature : Bytes} (hsignature : signature ≠ [])
    (hfits : (assembleSign1 protectedBytes payload signature).length < 2 ^ 64) :
    Reads readSign1 (assembleSign1 protectedBytes payload signature)
      (protectedBytes, payload, signature) := by
  simp only [assembleSign1, length_append] at hfits
  have htag : Reads (prim readTag) (tagHead tagSign1) tagSign1 :=
    reads_prim fun rest => readTag_tagHead rest (by decide)
  have hparts : Reads readArrayLen (arrayHead 4) 4 := reads_arrayLen (by decide)
  have hprotected : Reads readPart (bstr protectedBytes) protectedBytes := reads_part (by omega)
  have hunprotected : Reads (parseUnprotected (fun _ _ => pure none) ()) (mapHead 0) () := by
    have hfill : Fills (unprotectedField fun _ _ => pure none) [] () () := rfl
    exact reads_unprotected .nil (fun l hl => by cases hl) (by decide) hfill
  have hpayload : Reads readPayload (bstr payload) payload := reads_payload (by omega)
  have hsign : Reads readPart (bstr signature) signature := reads_part (by omega)
  have hword : assembleSign1 protectedBytes payload signature = tagHead tagSign1 ++ (arrayHead 4 ++
      (bstr protectedBytes ++ (mapHead 0 ++ (bstr payload ++ (bstr signature ++ []))))) := by
    simp [assembleSign1]
  rw [hword]
  refine Reads.bind htag (Reads.bind hparts (Reads.check_bind rfl (Reads.bind hprotected ?_)))
  refine Reads.bind hunprotected (Reads.bind hpayload (Reads.bind hsign ?_))
  exact Reads.check_bind (ensure_pos hsignature _) (reads_pure _)

theorem decodeSign1Strict_assemble {layer : Sign1Layer} {payload signature : Bytes}
    {contentType : Option ContentType} {headers : ProtectedHeaders}
    (hheader : decodeSign1Header env protectedBytes layer =
      .ok (algorithm, kid, contentType, claims, headers, protectedBytes))
    (hsignature : signature ≠ [])
    (hfits : (assembleSign1 protectedBytes payload signature).length < 2 ^ 64) :
    decodeSign1Strict env (assembleSign1 protectedBytes payload signature) layer =
      .ok ⟨protectedBytes, algorithm, kid, contentType, claims, headers, payload, signature⟩ := by
  have hscan : Precheck.scan (assembleSign1 protectedBytes payload signature) = .ok (some tagSign1) := by
    have hcanonical := assembleSign1_canonical protectedBytes payload signature
    rw [assembleSign1_eq] at hcanonical hfits ⊢
    exact Precheck.scan_canonical (by decide) (by decide) hcanonical (by decide) hfits
  have hread := congrArg Prod.fst (reads_sign1 hsignature hfits).exec
  rw [decodeSign1Strict, hscan]
  simp only [ok_bind, checkTag, ensure_pos, hread, hheader]
  rfl

theorem decodeSign1Header_bare {contentType : ContentType} {headers : Option ProtectedHeaders}
    (hencode : encodeSign1ProtectedBareWithHeaders env algorithm kid contentType claims headers =
      .ok protectedBytes) (hclaims : ∀ c ∈ claims, c.Admissible env)
    (hresponse : claims.bind Claims.responsePublicKeyCose = none)
    (hfits : protectedBytes.length < 2 ^ 64) :
    decodeSign1Header env protectedBytes .bare =
      .ok (algorithm, kid, some contentType, claims, headersOf headers, protectedBytes) := by
  have hagain : encodeSign1ProtectedBareWithHeaders env algorithm kid contentType claims
      (some (headersOf headers)) = .ok protectedBytes := by
    rw [← hencode]
    cases headers <;> rfl
  obtain ⟨rfl, hbinding, hname⟩ := encodeSign1ProtectedBare_ok env hencode
  have hparse := parseClaimsCapableHeader_map (codepoint_range algorithm) (.inl rfl) hclaims hbinding
    hname (.inr hresponse) hfits
  have hfinish : finishClaimsCapable ⟨algorithm.codepoint, some (critLabels claims headers),
      some contentType, some kid, claims, headersOf headers⟩ .optional = .ok () :=
    finishClaimsCapable_ok nofun nofun
  rw [decodeSign1Header, hparse]
  simp only [ok_bind, orErr, SignatureAlgorithm.fromCodepoint_codepoint, hfinish, hagain, mapError_ok]
  rfl

theorem decodeSign1Header_sealedOuter {headers : Option ProtectedHeaders}
    (hfits : (encodeSign1ProtectedSealedOuterWithHeaders algorithm kid headers).length < 2 ^ 64) :
    decodeSign1Header env (encodeSign1ProtectedSealedOuterWithHeaders algorithm kid headers)
        .sealedOuter =
      .ok (algorithm, kid, none, none, headersOf headers,
        encodeSign1ProtectedSealedOuterWithHeaders algorithm kid headers) := by
  have hagain : encodeSign1ProtectedSealedOuterWithHeaders algorithm kid (some (headersOf headers)) =
      encodeSign1ProtectedSealedOuterWithHeaders algorithm kid headers := by
    cases headers <;> rfl
  have hparse : parseSealedOuterProtected
      (encodeSign1ProtectedSealedOuterWithHeaders algorithm kid headers) =
        .ok (algorithm, kid, headersOf headers) := by
    rw [encodeSign1ProtectedSealedOuter_eq] at hfits ⊢
    exact parseSealedOuterProtected_map hfits
  rw [decodeSign1Header, hparse]
  simp only [ok_bind, hagain]
  rfl

/-! ### Encrypted messages -/

def recipientKeyEntries (kid : KeyId) (x : FixedBytes 32) : List (Int × Bytes) :=
  [(hdrKid, bstr kid.bytes), (hdrEphemeralKey, map (ephemeralEntries x))]

theorem writeRecipient_eq (recipientProtected : Bytes) (kid : KeyId) (x : FixedBytes 32) :
    writeRecipient recipientProtected kid x =
      array [bstr recipientProtected, map (recipientKeyEntries kid x), null] := by
  simp [writeRecipient, writeEphemeralKey_eq, array, recipientKeyEntries, map]

theorem assembleEncrypt_eq (a : EncryptAssembly) :
    assembleEncrypt a = tagHead tagEncrypt ++ array [bstr a.protectedBytes,
      map [(hdrIv, bstr a.iv.bytes)], bstr a.ciphertext,
      array [writeRecipient a.recipientProtected a.recipientKid a.ephemeralX]] := by
  simp [assembleEncrypt, array, map]

theorem recipientKeyEntries_ordered (kid : KeyId) (x : FixedBytes 32) :
    ((recipientKeyEntries kid x).map Prod.fst).Pairwise Before ∧
      ∀ l ∈ (recipientKeyEntries kid x).map Prod.fst, InI64 l :=
  show [hdrKid, hdrEphemeralKey].Pairwise Before ∧
    ∀ l ∈ [hdrKid, hdrEphemeralKey], InI64 l by decide

theorem ephemeral_canonical (x : FixedBytes 32) : Canonical 1 (map (ephemeralEntries x)) := by
  refine .map (show [(1 : Int), -1, -2].Pairwise Before by decide)
    (show ∀ l ∈ [(1 : Int), -1, -2], InI64 l by decide) ?_
  simp only [ephemeralEntries, forall_mem_cons]
  exact ⟨.int (by decide), .int (by decide), .bstr _, fun _ h => by cases h⟩

theorem assembleEncrypt_canonical (a : EncryptAssembly) : Canonical 6 (assembleEncrypt a) := by
  have hkeys : Canonical 2 (map (recipientKeyEntries a.recipientKid a.ephemeralX)) := by
    have hordered := recipientKeyEntries_ordered a.recipientKid a.ephemeralX
    refine .map hordered.1 hordered.2 ?_
    simp only [recipientKeyEntries, forall_mem_cons]
    exact ⟨.bstr _, ephemeral_canonical _, nofun⟩
  have hrecipient : Canonical 3 (writeRecipient a.recipientProtected a.recipientKid a.ephemeralX) := by
    rw [writeRecipient_eq]
    refine .array ?_
    simp only [forall_mem_cons]
    exact ⟨.bstr _, hkeys, .null, nofun⟩
  have hiv : Canonical 4 (map [(hdrIv, bstr a.iv.bytes)]) :=
    .map (show [hdrIv].Pairwise Before by decide) (show ∀ l ∈ [hdrIv], InI64 l by decide)
      fun entry hentry => by
        rw [mem_singleton.mp hentry]
        exact .bstr _
  rw [assembleEncrypt_eq]
  refine .tag (by decide) (.array ?_)
  simp only [forall_mem_cons]
  refine ⟨.bstr _, hiv, .bstr _, .array fun item hitem => ?_, nofun⟩
  rw [mem_singleton.mp hitem]
  exact hrecipient

theorem KeyId.bstr_lt (id : KeyId) : (bstr id.bytes).length < 2 ^ 64 := by
  have hlength := id.wellFormed.2
  have hhead : (head 2 id.bytes.length).length ≤ 9 := by
    unfold head
    split_ifs <;> simp [length_beBytes]
  rw [bstr, length_append]
  omega

theorem reads_recipientKeys (kid : KeyId) (x : FixedBytes 32) :
    Reads (parseUnprotected recipientEntry (none, none)) (map (recipientKeyEntries kid x))
      (some kid, some x) := by
  have hordered := recipientKeyEntries_ordered kid x
  have hkid : Reads (recipientEntry hdrKid (none, none)) (bstr kid.bytes)
      (some (some kid, none)) :=
    reads_validated (g := fun kid => some (some kid, none)) (reads_bytes kid.bstr_lt _)
      (keyIdFromBytes_bytes kid)
  have hkey : Reads (recipientEntry hdrEphemeralKey (some kid, none))
      (map (ephemeralEntries x)) (some (some kid, some x)) := by
    have hread := reads_ephemeralKey x
    rw [writeEphemeralKey_eq] at hread
    exact hread.map fun x => some (some kid, some x)
  have hfill : Fills (unprotectedField recipientEntry) (recipientKeyEntries kid x) (none, none)
      (some kid, some x) :=
    ⟨_, reads_unprotectedField (by decide) hkid, _, reads_unprotectedField (by decide) hkey, rfl⟩
  exact reads_unprotected hordered.1 hordered.2 (by simp [recipientKeyEntries]) hfill

theorem reads_recipient {recipientProtected : Bytes} (kid : KeyId) (x : FixedBytes 32)
    (hfits : (bstr recipientProtected).length < 2 ^ 64) :
    Reads readRecipient (arrayHead 1 ++ writeRecipient recipientProtected kid x)
      (recipientProtected, kid, x) := by
  have hcount : Reads readArrayLen (arrayHead 1) 1 := reads_arrayLen (by decide)
  have hlength : Reads readArrayLen (arrayHead 3) 3 := reads_arrayLen (by decide)
  have hnull : Reads (typed (fun t => ensure (t = .null) .recipientCiphertextPresent) readNull) null () :=
    reads_typed datatype_null rfl readNull_null
  have hword : writeRecipient recipientProtected kid x = arrayHead 3 ++ (bstr recipientProtected ++
      (map (recipientKeyEntries kid x) ++ (null ++ []))) := by
    rw [writeRecipient_eq, array]
    simp
  rw [hword]
  refine Reads.bind hcount (Reads.check_bind rfl (Reads.bind hlength ?_))
  refine Reads.check_bind rfl (Reads.check_bind rfl (Reads.bind (reads_part hfits) ?_))
  refine Reads.bind (reads_recipientKeys kid x) (Reads.check_bind rfl (Reads.check_bind rfl ?_))
  exact Reads.bind hnull (reads_pure _)

theorem reads_encrypt {a : EncryptAssembly} (hfits : (assembleEncrypt a).length < 2 ^ 64) :
    Reads readEncrypt (assembleEncrypt a) a := by
  have hword : assembleEncrypt a = tagHead tagEncrypt ++ (arrayHead 4 ++ (bstr a.protectedBytes ++
      (map [(hdrIv, bstr a.iv.bytes)] ++ (bstr a.ciphertext ++
        ((arrayHead 1 ++ writeRecipient a.recipientProtected a.recipientKid a.ephemeralX) ++ []))))) := by
    simp [assembleEncrypt, map]
  have hrecipientBytes : (bstr a.recipientProtected).length < 2 ^ 64 := by
    rw [hword, writeRecipient] at hfits
    simp only [length_append] at hfits
    omega
  rw [hword] at hfits ⊢
  simp only [length_append] at hfits
  have htag : Reads (prim readTag) (tagHead tagEncrypt) tagEncrypt :=
    reads_prim fun rest => readTag_tagHead rest (by decide)
  have hparts : Reads readArrayLen (arrayHead 4) 4 := reads_arrayLen (by decide)
  have hprotected : Reads readPart (bstr a.protectedBytes) a.protectedBytes := reads_part (by omega)
  have hciphertext : Reads readPayload (bstr a.ciphertext) a.ciphertext := reads_payload (by omega)
  have hiv : Reads (parseUnprotected ivEntry none) (map [(hdrIv, bstr a.iv.bytes)])
      (some a.iv) := by
    have hentry : Reads (ivEntry hdrIv none) (bstr a.iv.bytes) (some (some a.iv)) :=
      (reads_fixed a.iv (bstr_fixed_lt a.iv (by decide)) _).map fun iv => some (some iv)
    have hfill : Fills (unprotectedField ivEntry) [(hdrIv, bstr a.iv.bytes)] none (some a.iv) :=
      fills_single (reads_unprotectedField (by decide) hentry)
    exact reads_unprotected (show [hdrIv].Pairwise Before by decide)
      (show ∀ l ∈ [hdrIv], InI64 l by decide) (Nat.le_add_left 1 15) hfill
  refine Reads.bind htag (Reads.bind hparts (Reads.check_bind rfl (Reads.bind hprotected ?_)))
  refine Reads.bind hiv (Reads.check_bind rfl (Reads.bind hciphertext ?_))
  exact Reads.bind (reads_recipient a.recipientKid a.ephemeralX hrecipientBytes) (reads_pure _)

theorem decodeEncryptStrict_assemble {expectation : ClaimsExpectation} {a : EncryptAssembly}
    {algorithm : ContentAlgorithm} {contentType : ContentType} {parties : KdfParties}
    (hencode : encodeEncryptProtected env algorithm contentType claims = .ok a.protectedBytes)
    (hrecipient : encodeRecipientProtected parties = a.recipientProtected)
    (hclaims : ∀ c ∈ claims, c.Admissible env) (hparties : parties.Admissible)
    (hrequired : expectation = .required → claims ≠ none)
    (hforbidden : expectation = .forbidden → claims = none)
    (hfits : (assembleEncrypt a).length < 2 ^ 64) :
    decodeEncryptStrict env (assembleEncrypt a) expectation =
      .ok ⟨a.protectedBytes, algorithm, contentType, claims, a.iv, a.ciphertext, a.recipientProtected,
        a.recipientKid, a.ephemeralX, parties⟩ := by
  have hscan : Precheck.scan (assembleEncrypt a) = .ok (some tagEncrypt) := by
    have hcanonical := assembleEncrypt_canonical a
    rw [assembleEncrypt_eq] at hcanonical hfits ⊢
    exact Precheck.scan_canonical (by decide) (by decide) hcanonical (by decide) hfits
  have hread := congrArg Prod.fst (reads_encrypt hfits).exec
  obtain ⟨hprotectedFits, hrecipientFits⟩ : a.protectedBytes.length < 2 ^ 64 ∧
      a.recipientProtected.length < 2 ^ 64 := by
    simp only [assembleEncrypt, writeRecipient, bstr, length_append] at hfits
    omega
  obtain ⟨hprotected, hbinding, hname⟩ := encodeEncryptProtected_ok env hencode
  have hparse : parseClaimsCapableHeader env a.protectedBytes false =
      .ok ⟨algorithm.codepoint, some (critLabels claims none), some contentType, none, claims,
        headersOf none⟩ := by
    rw [hprotected] at hprotectedFits ⊢
    exact parseClaimsCapableHeader_map (contentCodepoint_range algorithm) (.inr ⟨rfl, rfl⟩) hclaims
      hbinding hname (.inl rfl) hprotectedFits
  have hfinish : finishClaimsCapable ⟨algorithm.codepoint, some (critLabels claims none),
      some contentType, none, claims, headersOf none⟩ expectation = .ok () :=
    finishClaimsCapable_ok hrequired hforbidden
  have hparseRecipient : parseRecipientProtected a.recipientProtected = .ok parties := by
    rw [← hrecipient, encodeRecipientProtected_eq] at hrecipientFits ⊢
    exact parseRecipientProtected_map hparties hrecipientFits
  rw [decodeEncryptStrict, hscan]
  simp only [ok_bind, checkTag, ensure_pos, hread, hparse, orErr,
    ContentAlgorithm.fromCodepoint_codepoint, hfinish, hparseRecipient, hencode, mapError_ok, hrecipient]
  rfl

end Basil.Cose
