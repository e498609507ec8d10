import Basil.CoseBuild

/-!
# One spelling for each message

What the strict decoder accepts is what the encoder writes for the decoded fields.
-/

namespace Basil.Cose

open List hiding map

open Cbor ResponseKey

variable (env : CoseEnv)

/-! ### Decoded claims are admissible -/

structure ClaimsParts.Admissible (parts : ClaimsParts) : Prop where
  issuedAt : ∀ iat ∈ parts.issuedAt, InI64 iat
  expiresAt : ∀ exp ∈ parts.expiresAt, InI64 exp
  responseSubject : ∀ subject ∈ parts.responseSubject, subject ≠ ""
  responseKey : ∀ key ∈ parts.responsePublicKeyCose, fromPublicBytes env key = .ok key

variable {env}

theorem yields_prim {α : Type} {read : Bytes → Option (α × Bytes)} {Q : α → Prop}
    (h : ∀ input a rest, read input = some (a, rest) → Q a) : Yields (prim read) Q := by
  intro s a s' hexec
  rw [prim, Proc.exec_ofFun] at hexec
  cases hread : read s with
  | none =>
    rw [hread] at hexec
    cases hexec
  | some result =>
    rw [hread] at hexec
    cases hexec
    exact h s _ _ hread

theorem yields_time (label : Int) : Yields (readTime label) InI64 :=
  .after fun _ => .after fun _ => yields_prim fun _ _ _ hread => readI64_range hread

variable {parts : ClaimsParts} {bytes : Bytes} {claims : Option Claims} {layer : Sign1Layer}

theorem cwtField_admissible (h : parts.Admissible env) (key : Int) :
    Yields (cwtField key parts) (ClaimsParts.Admissible env) := by
  unfold cwtField
  split_ifs
  · exact .after fun _ => .after fun _ => yields_pure ⟨h.1, h.2, h.3, h.4⟩
  · exact .after fun _ => .after fun _ => yields_pure ⟨h.1, h.2, h.3, h.4⟩
  · refine (yields_time key).bind fun exp hexp => yields_pure ⟨h.1, ?_, h.3, h.4⟩
    exact fun t ht => Option.mem_some_iff.mp ht ▸ hexp
  · refine (yields_time key).bind fun iat hiat => yields_pure ⟨?_, h.2, h.3, h.4⟩
    exact fun t ht => Option.mem_some_iff.mp ht ▸ hiat
  · exact .after fun _ => .after fun _ => yields_pure ⟨h.1, h.2, h.3, h.4⟩
  · exact yields_fail _

theorem parseCwtMap_admissible (h : parts.Admissible env) :
    Yields (parseCwtMap parts) (ClaimsParts.Admissible env) := by
  have hfields (n : Nat) : Yields (readMap cwtField n parts) (ClaimsParts.Admissible env) :=
    yields_entries (fun key acc hacc => cwtField_admissible hacc key) h
  exact .after fun n => (hfields n).bind fun filled hfilled =>
    yields_pure ⟨hfilled.1, hfilled.2, hfilled.3, hfilled.4⟩

theorem fromCoseKeyBytes_ok {key : FixedBytes 32}
    (h : fromCoseKeyBytes env bytes = .ok key) :
    fromPublicBytes env key = .ok key := by
  simp only [fromCoseKeyBytes, eq_ok] at h
  obtain ⟨_, -, raw, -, hraw⟩ := h
  have hsame : raw = key := by
    simp only [fromPublicBytes, eq_ok] at hraw
    obtain ⟨_, -, _, -, hkey⟩ := hraw
    exact hkey
  rwa [hsame] at hraw

theorem parseBasilLabel_admissible (h : parts.Admissible env) (l : Int) :
    Yields (parseBasilLabel env l parts) fun out => ∀ p ∈ out, p.Admissible env := by
  have hkept {p : ClaimsParts} (hp : p.Admissible env) : ∀ q ∈ some p, q.Admissible env :=
    fun q hq => Option.mem_some_iff.mp hq ▸ hp
  unfold parseBasilLabel
  split_ifs
  · exact .after fun _ => .after fun _ => yields_pure (hkept ⟨h.1, h.2, h.3, h.4⟩)
  · exact .after fun _ => yields_pure (hkept ⟨h.1, h.2, h.3, h.4⟩)
  · exact .after fun _ => .after fun _ => yields_pure (hkept ⟨h.1, h.2, h.3, h.4⟩)
  · exact .after fun _ => .after fun _ => yields_pure (hkept ⟨h.1, h.2, h.3, h.4⟩)
  · refine .after fun text => Yields.bind (P := fun subject => subject ≠ "") ?_ fun subject hne =>
      yields_pure (hkept ⟨h.1, h.2, fun s hs => Option.mem_some_iff.mp hs ▸ hne, h.4⟩)
    refine yields_check fun subject hsubject => ?_
    simp only [responseSubjectNew, eq_ok] at hsubject
    obtain ⟨_, hne, rfl⟩ := hsubject
    exact hne
  · exact .after fun _ => yields_pure (hkept ⟨h.1, h.2, h.3, h.4⟩)
  · refine .after fun raw => Yields.bind
      (P := fun key => fromPublicBytes env key = .ok key) ?_ fun key hkey =>
      yields_pure (hkept ⟨h.1, h.2, h.3, fun k hk => Option.mem_some_iff.mp hk ▸ hkey⟩)
    refine yields_check fun key hkey => ?_
    rw [mapError_eq_ok] at hkey
    exact fromCoseKeyBytes_ok hkey
  · exact yields_pure fun p hp => by cases hp

theorem claimsCapableField_admissible {h : HeaderParts} (hparts : h.parts.Admissible env)
    (allowKid : Bool) (l : Int) :
    Yields (claimsCapableField env allowKid l h) fun h' => h'.parts.Admissible env := by
  unfold claimsCapableField
  split_ifs
  · exact .after fun _ => yields_pure hparts
  · exact .after fun _ => yields_pure hparts
  · exact .after fun _ => .after fun _ => yields_pure hparts
  · exact .after fun _ => .after fun _ => yields_pure hparts
  · exact (parseCwtMap_admissible hparts).bind fun parts hfilled => yields_pure hfilled
  · exact .after fun _ => yields_pure hparts
  · exact .after fun _ => yields_pure hparts
  · exact .after fun _ => .after fun _ => yields_pure hparts
  · refine (parseBasilLabel_admissible hparts l).bind fun out hout => ?_
    cases out with
    | none => exact yields_fail _
    | some parts => exact yields_pure (hout parts rfl)

theorem intoClaims_admissible {c : Claims} (h : parts.Admissible env)
    (hclaims : parts.intoClaims env = .ok (some c)) : c.Admissible env := by
  unfold ClaimsParts.intoClaims at hclaims
  split_ifs at hclaims
  · simp only [eq_ok] at hclaims
    obtain ⟨_, -, hnone⟩ := hclaims
    cases hnone
  · simp only [eq_ok] at hclaims
    obtain ⟨issuedAt, hissued, _, -, _, -, hc⟩ := hclaims
    obtain rfl := Option.some.inj hc
    exact ⟨h.issuedAt issuedAt hissued, h.expiresAt, h.responseSubject, h.responseKey⟩

theorem parseClaimsCapableHeader_admissible {allowKid : Bool} {h : ClaimsCapableHeader}
    (hparse : parseClaimsCapableHeader env bytes allowKid = .ok h) :
    ∀ c ∈ h.claims, c.Admissible env := by
  simp only [parseClaimsCapableHeader, parseHeaderMap, eq_ok] at hparse
  obtain ⟨parts, ⟨_, -, _, -, hread⟩, _, -, claims, hclaims, _, -, rfl⟩ := hparse
  have hempty : ({} : HeaderParts).parts.Admissible env := by constructor <;> simp
  have hyields : Yields (do
      let n ← readMapLen
      readMap (claimsCapableField env allowKid) n {} : Decoder HeaderParts)
      fun h => h.parts.Admissible env :=
    .after fun n => yields_entries
      (fun l acc hacc => claimsCapableField_admissible hacc allowKid l) hempty
  intro c hc
  obtain rfl : claims = some c := hc
  exact intoClaims_admissible (hyields.fst hread) hclaims

/-! ### The decoded value, encoded again -/

variable (env)

def DecodedSign1.encodeHeader (m : DecodedSign1) (layer : Sign1Layer) : Except CodecError Bytes :=
  match layer with
  | .bare => do
      let contentType ← orErr m.contentType .codec
      encodeSign1ProtectedBareWithHeaders env m.algorithm m.kid contentType m.claims
        (some m.protectedHeaders)
  | .sealedOuter =>
      .ok (encodeSign1ProtectedSealedOuterWithHeaders m.algorithm m.kid (some m.protectedHeaders))

/-- The message of the decoded fields; the received header bytes are not used. -/
def DecodedSign1.encode (m : DecodedSign1) (layer : Sign1Layer) : Except CodecError Bytes := do
  let protectedBytes ← m.encodeHeader env layer
  return assembleSign1 protectedBytes m.payload m.signature

def DecodedEncrypt.encode (m : DecodedEncrypt) : Except CodecError Bytes := do
  let protectedBytes ← encodeEncryptProtected env m.contentAlgorithm m.contentType m.claims
  return assembleEncrypt ⟨protectedBytes, m.iv, m.ciphertext, encodeRecipientProtected m.parties,
    m.recipientKid, m.ephemeralX⟩

/-- A deterministic header with known labels and known claims only. -/
def Profiled (labels : List Int) (bytes : Bytes) : Prop :=
  Canonical 2 bytes ∧ ∃ entries, bytes = map entries ∧ (entries.map Prod.fst).Sublist labels ∧
    ∀ value, (Registered.hdrCwtClaims, value) ∈ entries →
      ∃ claims, value = map claims ∧ (claims.map Prod.fst).Sublist cwtLabels

variable {env}

theorem profiled_of_plain {labels : List Int} {entries : List (Int × Bytes)}
    (hcanonical : Canonical 2 (map entries)) (hlabels : (entries.map Prod.fst).Sublist labels)
    (hplain : Registered.hdrCwtClaims ∉ labels) : Profiled labels (map entries) := by
  refine ⟨hcanonical, entries, rfl, hlabels, fun value hvalue => ?_⟩
  exact absurd (hlabels.mem (mem_map_of_mem (f := Prod.fst) hvalue)) hplain

theorem tailEntries_claims {contentType : ContentType} {headers : Option ProtectedHeaders}
    {kid : Option KeyId} :
    ∀ entry ∈ tailEntries contentType claims headers kid, entry.1 = Registered.hdrCwtClaims →
      ∃ c ∈ claims, entry.2 = map (cwtEntries c) := by
  have hclaims : ∀ entry ∈ claims.toList.flatMap claimsEntries, entry.1 = Registered.hdrCwtClaims →
      ∃ c ∈ claims, entry.2 = map (cwtEntries c) := by
    intro entry hentry
    obtain ⟨c, hc, hmem⟩ := mem_flatMap.mp hentry
    have hown : ∀ e ∈ claimsEntries c, e.1 = Registered.hdrCwtClaims → e.2 = map (cwtEntries c) := by
      simp only [claimsEntries, forall_mem_append, forall_mem_optEntry, mem_singleton]
      refine ⟨⟨⟨⟨⟨?_, ?_⟩, ?_⟩, ?_⟩, ?_⟩, ?_⟩
      · rintro e rfl -
        rfl
      all_goals exact fun _ _ hlabel => absurd hlabel (by decide)
    exact fun hlabel => ⟨c, Option.mem_toList.mp hc, hown entry hmem hlabel⟩
  simp only [tailEntries, forall_mem_append, forall_mem_optEntry, forall_mem_cons]
  refine ⟨⟨⟨⟨⟨⟨⟨⟨?_, ?_, ?_⟩, ?_⟩, hclaims⟩, ?_⟩, ?_⟩, ?_⟩, ?_⟩, ?_⟩
  · exact fun hlabel => absurd hlabel (by decide)
  · exact fun hlabel => absurd hlabel (by decide)
  · exact fun _ h => by cases h
  all_goals exact fun _ _ hlabel => absurd hlabel (by decide)

theorem profiled_header {signed : Bool} {contentType : ContentType}
    {headers : Option ProtectedHeaders} {kid : Option KeyId} {alg : Int} (halg : InI64 alg)
    (hsigned : signed = true ∨ headers = none ∧ kid = none) (h : ∀ c ∈ claims, c.Admissible env) :
    Profiled (headerLabels signed)
      (map ((Registered.hdrAlg, int alg) :: tailEntries contentType claims headers kid)) := by
  refine ⟨header_canonical halg hsigned h, _, rfl, tailEntries_labels hsigned _, ?_⟩
  intro value hvalue
  obtain halg | htail := mem_cons.mp hvalue
  · cases halg
  · obtain ⟨c, -, rfl⟩ := tailEntries_claims _ htail rfl
    exact ⟨cwtEntries c, rfl, cwtEntries_labels c⟩

def Sign1Layer.labels : Sign1Layer → List Int
  | .bare => headerLabels true
  | .sealedOuter => outerLabels

/-! ### Signed messages -/

theorem decodeSign1Header_ok {protectedBytes rebuilt : Bytes} {algorithm : SignatureAlgorithm}
    {kid : KeyId} {contentType : Option ContentType} {headers : ProtectedHeaders}
    (payload signature : Bytes) (h : decodeSign1Header env protectedBytes layer =
      .ok (algorithm, kid, contentType, claims, headers, rebuilt)) :
    DecodedSign1.encodeHeader env ⟨protectedBytes, algorithm, kid, contentType, claims, headers, payload,
      signature⟩ layer = .ok rebuilt ∧ Profiled layer.labels rebuilt := by
  cases layer with
  | bare =>
    simp only [decodeSign1Header, eq_ok] at h
    obtain ⟨parsed, hparse, _, -, _, -, _, -, _, -, _, hencode, heq⟩ := h
    cases heq
    obtain ⟨rfl, -, -⟩ := encodeSign1ProtectedBare_ok env hencode
    exact ⟨hencode, profiled_header (codepoint_range _) (.inl rfl)
      (parseClaimsCapableHeader_admissible hparse)⟩
  | sealedOuter =>
    simp only [decodeSign1Header, eq_ok] at h
    obtain ⟨parsed, -, heq⟩ := h
    cases heq
    refine ⟨rfl, ?_⟩
    rw [encodeSign1ProtectedSealedOuter_eq]
    exact profiled_of_plain (outer_canonical ..) (outerEntries_labels ..) (by decide)

theorem readSign1_signature : Yields readSign1 fun parts => parts.2.2 ≠ [] := by
  refine .after fun _ => .after fun _ => .after fun _ => .after fun _ => .after fun _ => .after fun _ =>
    .after fun signature => ?_
  have hcheck : Yields (Proc.check (ensure (signature ≠ []) DecodeError.malformed) : Decoder Unit)
      fun _ => signature ≠ [] := yields_check fun _ hne => ensure_eq_ok.mp hne
  exact hcheck.bind fun _ hne => yields_pure hne

theorem decodeSign1Strict_encode {m : DecodedSign1} (h : decodeSign1Strict env bytes layer = .ok m) :
    m.encode env layer = .ok bytes := by
  simp only [decodeSign1Strict, eq_ok] at h
  obtain ⟨_, -, _, -, ⟨_, payload, signature⟩, -,
    ⟨_, _, _, _, _, _⟩, hheader, _, hsame, rfl⟩ := h
  have hencode := (decodeSign1Header_ok payload signature hheader).1
  rw [DecodedSign1.encode, hencode, ← hsame]
  rfl

theorem decodeSign1Strict_header {m : DecodedSign1} (h : decodeSign1Strict env bytes layer = .ok m)
    (hfits : bytes.length < 2 ^ 64) :
    bytes = assembleSign1 m.protectedBytes m.payload m.signature ∧
      Profiled layer.labels m.protectedBytes := by
  simp only [decodeSign1Strict, eq_ok] at h
  obtain ⟨_, -, _, -, ⟨protectedBytes, payload, signature⟩, hread,
    ⟨_, _, _, _, _, rebuilt⟩, hheader, _, hsame, rfl⟩ := h
  have hprofiled := (decodeSign1Header_ok payload signature hheader).2
  subst hsame
  have hagain := congrArg Prod.fst (reads_sign1 (readSign1_signature.fst hread) hfits).exec
  have hparts := Except.ok.inj (hread.symm.trans hagain)
  obtain rfl : protectedBytes = rebuilt := congrArg Prod.fst hparts
  exact ⟨rfl, hprofiled⟩

/-! ### Encrypted messages -/

theorem decodeEncryptStrict_encode {expectation : ClaimsExpectation} {m : DecodedEncrypt}
    (h : decodeEncryptStrict env bytes expectation = .ok m) : m.encode env = .ok bytes := by
  simp only [decodeEncryptStrict, eq_ok] at h
  obtain ⟨_, -, _, -, _, -, _, -, _, -, _, -, _, -, _, -, _, hencode,
    _, hsame, rfl⟩ := h
  rw [DecodedEncrypt.encode, hencode, ← hsame]
  rfl

theorem decodeEncryptStrict_headers {expectation : ClaimsExpectation} {m : DecodedEncrypt}
    (h : decodeEncryptStrict env bytes expectation = .ok m) (hfits : bytes.length < 2 ^ 64) :
    bytes = assembleEncrypt ⟨m.protectedBytes, m.iv, m.ciphertext, m.recipientProtected, m.recipientKid,
        m.ephemeralX⟩ ∧
      Profiled (headerLabels false) m.protectedBytes ∧
      Profiled recipientLabels m.recipientProtected := by
  simp only [decodeEncryptStrict, eq_ok] at h
  obtain ⟨_, -, _, -, a, hread, _, hparse, _, -, _, -, _, -, parties, -, rebuilt,
    hencode, _, hsame, rfl⟩ := h
  subst hsame
  have hagain := congrArg Prod.fst (reads_encrypt hfits).exec
  have hparts := Except.ok.inj (hread.symm.trans hagain)
  have hprotected : a.protectedBytes = rebuilt := congrArg EncryptAssembly.protectedBytes hparts
  have hrecipient := congrArg EncryptAssembly.recipientProtected hparts
  obtain ⟨hmap, -, -⟩ := encodeEncryptProtected_ok env hencode
  refine ⟨?_, ?_, ?_⟩
  · rw [hprotected, hrecipient]
  · rw [hprotected, hmap]
    exact profiled_header (contentCodepoint_range _) (.inr ⟨rfl, rfl⟩)
      (parseClaimsCapableHeader_admissible hparse)
  · rw [hrecipient, encodeRecipientProtected_eq]
    exact profiled_of_plain (recipient_canonical parties) (recipientEntries_labels parties) (by decide)

theorem accepted_bytes_canonical (env : CoseEnv) {bytes : Bytes} (hfits : bytes.length < 2 ^ 64) :
    (∀ layer m, decodeSign1Strict env bytes layer = .ok m →
      m.encode env layer = .ok bytes ∧ Canonical 3 bytes ∧ Profiled layer.labels m.protectedBytes ∧
      ∀ bytes' m', decodeSign1Strict env bytes' layer = .ok m' →
        { m' with protectedBytes := m.protectedBytes } = m → bytes' = bytes) ∧
    (∀ expectation m, decodeEncryptStrict env bytes expectation = .ok m →
      m.encode env = .ok bytes ∧ Canonical 6 bytes ∧ Profiled (headerLabels false) m.protectedBytes ∧
      Profiled recipientLabels m.recipientProtected ∧
      ∀ expectation' bytes' m', decodeEncryptStrict env bytes' expectation' = .ok m' →
        { m' with
          protectedBytes := m.protectedBytes
          recipientProtected := m.recipientProtected } = m → bytes' = bytes) := by
  constructor
  · intro layer m h
    have hencode := decodeSign1Strict_encode h
    obtain ⟨hbytes, hprofiled⟩ := decodeSign1Strict_header h hfits
    refine ⟨hencode, hbytes ▸ assembleSign1_canonical .., hprofiled, ?_⟩
    intro bytes' m' h' hfields
    have hsame : m'.encode env layer = m.encode env layer := by
      rw [← congrArg (DecodedSign1.encode env · layer) hfields]
      cases layer <;> rfl
    exact Except.ok.inj ((decodeSign1Strict_encode h').symm.trans (hsame.trans hencode))
  · intro expectation m h
    have hencode := decodeEncryptStrict_encode h
    obtain ⟨hbytes, hprofiled, hrecipient⟩ := decodeEncryptStrict_headers h hfits
    refine ⟨hencode, hbytes ▸ assembleEncrypt_canonical _, hprofiled, hrecipient, ?_⟩
    intro expectation' bytes' m' h' hfields
    have hsame : m'.encode env = m.encode env := by
      rw [← congrArg (DecodedEncrypt.encode env) hfields]
      rfl
    exact Except.ok.inj ((decodeEncryptStrict_encode h').symm.trans (hsame.trans hencode))

theorem accepted_reply_canonical :
    (∃ bytes m, bytes.length < 2 ^ 64 ∧ decodeSign1Strict clearEnv bytes .bare = .ok m ∧
      m.encode clearEnv .bare = .ok bytes ∧ Profiled (headerLabels true) m.protectedBytes) ∧
    (∃ bytes m, bytes.length < 2 ^ 64 ∧ decodeEncryptStrict clearEnv bytes .optional = .ok m ∧
      m.encode clearEnv = .ok bytes ∧ Profiled recipientLabels m.recipientProtected) := by
  constructor
  · obtain ⟨bytes, hbuilt, hfits⟩ := replySigned_built
    obtain ⟨m, hdecode, -⟩ := buildSignedWithHeaders_decodes hbuilt
      (fun c hc => Option.mem_some_iff.mp hc ▸ replyClaims_admissible) hfits
    obtain ⟨hencode, -, hprofiled, -⟩ := (accepted_bytes_canonical clearEnv hfits).1 .bare m hdecode
    exact ⟨bytes, m, hfits, hdecode, hencode, hprofiled⟩
  · obtain ⟨bytes, hbuilt, hfits⟩ := replyEncrypted_built
    obtain ⟨_, _, -, hcore⟩ := drawn_eq_ok.mp hbuilt
    have hclaims : ∀ c ∈ replyEncrypted.core.claims, c.Admissible clearEnv := fun c hc => by cases hc
    obtain ⟨m, -, hdecode⟩ := buildEncryptCore_decodes hcore hclaims ⟨by decide, by decide⟩ hfits
    have hopen := hdecode .optional nofun nofun
    obtain ⟨hencode, -, -, hprofiled, -⟩ := (accepted_bytes_canonical clearEnv hfits).2 .optional m hopen
    exact ⟨bytes, m, hfits, hopen, hencode, hprofiled⟩

/-! ### The structures keys are used over -/

inductive KeyedStructure where
  | signature (protectedBytes externalAad payload : Bytes)
  | encryption (protectedBytes externalAad : Bytes)
  | derivation (algorithm : ContentAlgorithm) (parties : KdfParties) (recipientProtected : Bytes)

section Prefixes

variable {b c rest rest' : Bytes}

theorem bstr_append_inj (hb : b.length < 2 ^ 64) (hc : c.length < 2 ^ 64)
    (h : bstr b ++ rest = bstr c ++ rest') : b = c ∧ rest = rest' := by
  have hread := congrArg readBstr h
  rwa [readBstr_bstr _ hb, readBstr_bstr _ hc, Option.some.injEq, Prod.mk.injEq] at hread

theorem writeParty_append_inj {u v : Option Bytes} (hu : (u.getD []).length < 2 ^ 64)
    (hv : (v.getD []).length < 2 ^ 64) (h : writeParty u ++ rest = writeParty v ++ rest') :
    u = v ∧ rest = rest' := by
  simp only [writeParty, append_assoc, append_cancel_left_eq] at h
  have hkind := congrArg datatype h
  cases u with
  | none =>
    cases v with
    | none => exact ⟨rfl, by simpa using h⟩
    | some w => simp [datatype_null, datatype_bstr (b := w) _ hv] at hkind
  | some w =>
    cases v with
    | none => simp [datatype_null, datatype_bstr (b := w) _ hu] at hkind
    | some w' =>
      obtain ⟨rfl, htail⟩ := bstr_append_inj hu hv h
      exact ⟨rfl, by simpa using htail⟩

end Prefixes

theorem sigStructure_ne_kdfContext {p a m r : Bytes} {algorithm : ContentAlgorithm}
    {parties : KdfParties} : sigStructure p a m ≠ kdfContext algorithm parties r := by
  intro h
  simp only [sigStructure, kdfContext, append_assoc, append_cancel_left_eq] at h
  have hkind := congrArg datatype h
  cases algorithm <;> cases hkind

namespace KeyedStructure

def encode : KeyedStructure → Bytes
  | signature p a m => sigStructure p a m
  | encryption p a => encStructure p a
  | derivation algorithm parties r => kdfContext algorithm parties r

def strings : KeyedStructure → List Bytes
  | signature p a m => [p, a, m]
  | encryption p a => [p, a]
  | derivation _ parties r => [parties.partyU.getD [], parties.partyV.getD [], r]

theorem encode_injective {s t : KeyedStructure} (hs : ∀ b ∈ s.strings, b.length < 2 ^ 64)
    (ht : ∀ b ∈ t.strings, b.length < 2 ^ 64) (h : s.encode = t.encode) : s = t := by
  have hend : s.encode ++ [] = t.encode ++ [] := congrArg (· ++ []) h
  -- an array of three is no array of four
  cases s <;> cases t <;> try cases congrArg head? h
  all_goals simp only [strings, forall_mem_cons] at hs ht
  case signature.signature =>
    simp only [encode, sigStructure, append_assoc, append_cancel_left_eq] at hend
    obtain ⟨rfl, haad⟩ := bstr_append_inj hs.1 ht.1 hend
    obtain ⟨rfl, hpayload⟩ := bstr_append_inj hs.2.1 ht.2.1 haad
    obtain ⟨rfl, -⟩ := bstr_append_inj hs.2.2.1 ht.2.2.1 hpayload
    rfl
  case signature.derivation => exact absurd h sigStructure_ne_kdfContext
  case encryption.encryption =>
    simp only [encode, encStructure, append_assoc, append_cancel_left_eq] at hend
    obtain ⟨rfl, haad⟩ := bstr_append_inj hs.1 ht.1 hend
    obtain ⟨rfl, -⟩ := bstr_append_inj hs.2.1 ht.2.1 haad
    rfl
  case derivation.signature => exact absurd h.symm sigStructure_ne_kdfContext
  case derivation.derivation algorithm parties r algorithm' parties' r' =>
    simp only [encode, kdfContext, append_assoc, append_cancel_left_eq] at hend
    obtain rfl : algorithm = algorithm' := by
      cases algorithm <;> cases algorithm' <;> first | rfl | cases congrArg head? hend
    obtain ⟨_, _⟩ := parties
    rw [append_cancel_left_eq] at hend
    obtain ⟨rfl, hv⟩ := writeParty_append_inj hs.1 ht.1 hend
    obtain ⟨rfl, htail⟩ := writeParty_append_inj hs.2.1 ht.2.1 hv
    rw [append_cancel_left_eq, append_cancel_left_eq] at htail
    obtain ⟨rfl, -⟩ := bstr_append_inj hs.2.2.1 ht.2.2.1 htail
    rfl

theorem encode_ne : encode (.signature [1] [] [2]) ≠ encode (.signature [1] [2] []) := by
  intro h
  have hs : ∀ b ∈ (signature [1] [] [2]).strings, b.length < 2 ^ 64 := by decide
  have ht : ∀ b ∈ (signature [1] [2] []).strings, b.length < 2 ^ 64 := by decide
  cases encode_injective hs ht h

end KeyedStructure

end Basil.Cose
