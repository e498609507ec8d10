import Basil.CoseCanonical

/-!
# Verifying and opening sealed messages (`basil-cose/src/{seal,keys}.rs`)

`verify_sealed` over the profile's own wire form, and the opening of what it verified: remote
recipients are handed the embedded bytes, and the local one decodes them again.
-/

namespace Basil.Cose

open Cbor Claims

variable (env : CoseEnv)

/-! ### Opening -/

inductive OpenError where
  | decode (error : DecodeError)
  | recipientKeyMismatch
  | partyMismatch
  | openFailed
  | provider (message : String)
  deriving DecidableEq

structure OpenRequest where
  coseEncrypt : Bytes
  externalAad : Bytes
  expectedParties : Option KdfParties

structure Recipient where
  keyId : KeyId
  openMessage : OpenRequest → Except OpenError Bytes

structure X25519Recipient where
  privateKey : FixedBytes 32
  keyId : KeyId

def openLocal (recipient : X25519Recipient) (request : OpenRequest) : Except OpenError Bytes := do
  let decoded ← (decodeEncryptStrict env request.coseEncrypt .optional).mapError .decode
  ensure (decoded.recipientKid = recipient.keyId) .recipientKeyMismatch
  ensure (∀ expected ∈ request.expectedParties, expected = decoded.parties) .partyMismatch
  let shared := env.diffieHellman recipient.privateKey decoded.ephemeralX
  ensure (wasContributory shared) .openFailed
  let info := kdfContext decoded.contentAlgorithm decoded.parties decoded.recipientProtected
  let cek ← orErr (env.deriveCek shared info) .openFailed
  let aad := encStructure decoded.protectedBytes request.externalAad
  orErr (env.aeadOpen decoded.contentAlgorithm cek decoded.iv decoded.ciphertext aad) .openFailed

def X25519Recipient.recipient (recipient : X25519Recipient) : Recipient where
  keyId := recipient.keyId
  openMessage := openLocal env recipient

structure Opened where
  plaintext : Bytes
  contentType : String

def VerifiedSealed.openSealed (sealed : VerifiedSealed) (recipient : Recipient) (aad : Bytes)
    (expectedParties : Option KdfParties) : Except OpenError Opened := do
  ensure (recipient.keyId = sealed.recipientKeyId) .recipientKeyMismatch
  ensure (∀ expected ∈ expectedParties, expected = sealed.parties) .partyMismatch
  let plaintext ← recipient.openMessage ⟨sealed.encryptBytes, aad, expectedParties⟩
  return ⟨plaintext, sealed.contentType⟩

/-! ### Acceptable claims -/

namespace MessageRole

def required : MessageRole → List Label
  | request => [.senderKeyId, .responseKeyId]
  | response => [.inReplyTo, .requestHash]
  | peer => [.senderKeyId]

def forbidden : MessageRole → List Label
  | request => [.inReplyTo, .requestHash]
  | response => [.responseKeyId, .responseSubject, .freshnessChallenge, .responsePublicKeyCose]
  | peer => [.inReplyTo, .requestHash, .responseKeyId, .responseSubject, .freshnessChallenge,
      .responsePublicKeyCose]

end MessageRole

def Claims.has (claims : Claims) : Label → Bool
  | .inReplyTo => claims.inReplyTo.isSome
  | .requestHash => claims.requestHash.isSome
  | .senderKeyId => claims.senderKeyId.isSome
  | .responseKeyId => claims.responseKeyId.isSome
  | .responseSubject => claims.responseSubject.isSome
  | .freshnessChallenge => claims.freshnessChallenge.isSome
  | .responsePublicKeyCose => claims.responsePublicKeyCose.isSome
  | .signerCertificatesJwt | .signerPublicKeyCose | .operationTargetKeyId => false

structure Claims.Acceptable (codec : Codec) (claims : Claims) (params : ValidationParams) : Prop where
  notFuture : claims.issuedAt ≤ satAddI64 params.now (secsI64 params.maxClockSkew)
  lifetime : ∀ exp ∈ claims.expiresAt, 0 < satSubI64 exp claims.issuedAt ∧
    satSubI64 exp claims.issuedAt ≤ secsI64 params.maxTtl
  notExpired : params.now ≤ satAddI64
    (claims.expiresAt.getD (satAddI64 claims.issuedAt (secsI64 params.defaultTtl)))
    (secsI64 params.maxClockSkew)
  audience : params.allowedAudiences = [] ∨ ∀ aud ∈ claims.audience, aud ∈ params.allowedAudiences
  responseKey : ∀ keyId ∈ claims.responseKeyId, ∀ key ∈ claims.responsePublicKeyCose,
    keyId.bytes = textBytes (codec.responseThumbprint key)
  required : ∀ label ∈ params.role.required, claims.has label = true
  forbidden : ∀ label ∈ params.role.forbidden, claims.has label = false

variable {env}

variable {codec : Codec} {claims : Claims} {params : ValidationParams} {bytes : Bytes}
  {m : DecodedEncrypt}

theorem responseKeyMatches_iff :
    claims.responseKeyMatches codec = true ↔
      ∀ keyId ∈ claims.responseKeyId, ∀ key ∈ claims.responsePublicKeyCose,
        keyId.bytes = textBytes (codec.responseThumbprint key) := by
  unfold responseKeyMatches
  cases claims.responseKeyId <;> cases claims.responsePublicKeyCose <;> simp

theorem validateRole_eq_ok {role : MessageRole} :
    claims.validateRole codec role = .ok () ↔
      claims.responseKeyMatches codec = true ∧ (∀ label ∈ role.required, claims.has label = true) ∧
        ∀ label ∈ role.forbidden, claims.has label = false := by
  cases role <;>
    simp only [validateRole, require, forbid, eq_ok, MessageRole.required, MessageRole.forbidden,
      List.forall_mem_cons, has] <;>
    simp [and_assoc]

theorem effectiveExpiry_eq_ok {expiry : Int} :
    claims.effectiveExpiry params = .ok expiry ↔
      (∀ exp ∈ claims.expiresAt, 0 < satSubI64 exp claims.issuedAt ∧
        satSubI64 exp claims.issuedAt ≤ secsI64 params.maxTtl) ∧
      claims.expiresAt.getD (satAddI64 claims.issuedAt (secsI64 params.defaultTtl)) = expiry := by
  unfold effectiveExpiry
  cases claims.expiresAt with
  | none => simp
  | some exp => simp [bind_eq_ok, ensure_eq_ok, and_assoc]

theorem validate_eq_ok :
    claims.validate codec params = .ok () ↔ claims.Acceptable codec params := by
  simp only [validate, eq_ok, effectiveExpiry_eq_ok, validateRole_eq_ok, responseKeyMatches_iff]
  constructor
  · rintro ⟨_, hfuture, _, ⟨hlife, rfl⟩, _, hexpired, _, haudience, hkey, hrequired, hforbidden⟩
    exact ⟨hfuture, hlife, hexpired, haudience, hkey, hrequired, hforbidden⟩
  · intro h
    exact ⟨(), h.notFuture, _, ⟨h.lifetime, rfl⟩, (), h.notExpired, (), h.audience, h.responseKey,
      h.required, h.forbidden⟩

/-! ### Verification -/

theorem decodeSign1Strict_signature {layer : Sign1Layer} {m : DecodedSign1}
    (h : decodeSign1Strict env bytes layer = .ok m) : m.signature ≠ [] := by
  simp only [decodeSign1Strict, eq_ok] at h
  obtain ⟨_, -, _, -, ⟨_, _, signature⟩, hread, _, -, _, -, rfl⟩ := h
  exact readSign1_signature.fst hread

structure Verified {α : Type} (env : CoseEnv) (bytes : Bytes) (verifier : Verifier α)
    (signatureAad : Bytes) (params : ValidationParams) (outer : DecodedSign1) (embedded : DecodedEncrypt)
    (claims : Claims) (verified : α) : Prop where
  signedLayer : decodeSign1Strict env bytes .sealedOuter = .ok outer
  encryptedLayer : decodeEncryptStrict env outer.payload .required = .ok embedded
  accepted : verifier outer.kid outer.algorithm outer.protectedHeaders
    (sigStructure outer.protectedBytes signatureAad outer.payload) outer.signature = .ok verified
  carried : embedded.claims = some claims
  acceptable : claims.Acceptable (wireCodec env) params
  sender : claims.senderKeyId = some outer.kid

theorem verifySealed_eq_ok {α : Type} {verifier : Verifier α} {signatureAad : Bytes}
    {sealed : VerifiedSealed} {verified : α} :
    verifySealed (wireCodec env) bytes verifier signatureAad params = .ok (sealed, verified) ↔
      ∃ outer embedded claims,
        Verified env bytes verifier signatureAad params outer embedded claims verified ∧
        sealed = ⟨claims, embedded.contentType.1, outer.kid, outer.protectedHeaders,
          embedded.recipientKid, embedded.parties, outer.payload⟩ := by
  simp only [verifySealed, wireCodec, eq_ok]
  constructor
  · rintro ⟨_, ⟨outer, houter, rfl⟩, _, ⟨embedded, hembedded, rfl⟩, _, -, _, hverified, claims,
      hclaims, _, hsender, _, hvalid, heq⟩
    cases heq
    exact ⟨outer, embedded, claims, ⟨houter, hembedded, hverified, hclaims,
      validate_eq_ok.mp hvalid, hsender⟩, rfl⟩
  · rintro ⟨outer, embedded, claims, h, rfl⟩
    exact ⟨_, ⟨outer, h.signedLayer, rfl⟩, _, ⟨embedded, h.encryptedLayer, rfl⟩, (),
      decodeSign1Strict_signature h.signedLayer, verified, h.accepted, claims, h.carried, (), h.sender, (),
      validate_eq_ok.mpr h.acceptable, rfl⟩

theorem decodeEncryptStrict_optional (h : decodeEncryptStrict env bytes .required = .ok m) :
    decodeEncryptStrict env bytes .optional = .ok m := by
  simp only [decodeEncryptStrict, eq_ok, finishClaimsCapable] at h ⊢
  obtain ⟨tag, htag, _, hcheck, a, hread, parsed, hparse, algorithm, halg, _,
    ⟨_, htype, _, -, _, -, hcrit⟩, hrest⟩ := h
  have hrequired : ¬ (ClaimsExpectation.optional = .required ∧ parsed.claims = none) := by simp
  have hforbidden : ¬ (ClaimsExpectation.optional = .forbidden ∧ parsed.claims ≠ none) := by simp
  exact ⟨tag, htag, (), hcheck, a, hread, parsed, hparse, algorithm, halg, (),
    ⟨(), htype, (), hrequired, (), hforbidden, hcrit⟩, hrest⟩

theorem verifySealed_exact {α : Type} (env : CoseEnv) (bytes : Bytes) (verifier : Verifier α)
    (signatureAad : Bytes) (params : ValidationParams) (sealed : VerifiedSealed) (verified : α) :
    (verifySealed (wireCodec env) bytes verifier signatureAad params = .ok (sealed, verified) ↔
      ∃ outer embedded claims,
        Verified env bytes verifier signatureAad params outer embedded claims verified ∧
        sealed = ⟨claims, embedded.contentType.1, outer.kid, outer.protectedHeaders,
          embedded.recipientKid, embedded.parties, outer.payload⟩) ∧
    (verifySealed (wireCodec env) bytes verifier signatureAad params = .ok (sealed, verified) →
      ∃ outer embedded claims,
        Verified env bytes verifier signatureAad params outer embedded claims verified ∧
        (∀ recipient aad expected opened,
          sealed.openSealed recipient aad expected = .ok opened →
          recipient.openMessage ⟨outer.payload, aad, expected⟩ = .ok opened.plaintext) ∧
        ∀ recipient aad expected opened,
          sealed.openSealed (X25519Recipient.recipient env recipient) aad expected = .ok opened →
          ∃ cek, env.deriveCek (env.diffieHellman recipient.privateKey embedded.ephemeralX)
              (kdfContext embedded.contentAlgorithm embedded.parties embedded.recipientProtected) =
              some cek ∧
            env.aeadOpen embedded.contentAlgorithm cek embedded.iv embedded.ciphertext
              (encStructure embedded.protectedBytes aad) = some opened.plaintext) := by
  refine ⟨verifySealed_eq_ok, fun h => ?_⟩
  obtain ⟨outer, embedded, claims, hverified, rfl⟩ := verifySealed_eq_ok.mp h
  have hrequest : ∀ recipient aad expected opened, VerifiedSealed.openSealed ⟨claims,
      embedded.contentType.1, outer.kid, outer.protectedHeaders, embedded.recipientKid, embedded.parties,
      outer.payload⟩ recipient aad expected = .ok opened →
      recipient.openMessage ⟨outer.payload, aad, expected⟩ = .ok opened.plaintext := by
    intro recipient aad expected opened hopen
    simp only [VerifiedSealed.openSealed, eq_ok] at hopen
    obtain ⟨_, -, _, -, plaintext, hmessage, rfl⟩ := hopen
    exact hmessage
  refine ⟨outer, embedded, claims, hverified, hrequest, ?_⟩
  intro recipient aad expected opened hopen
  have hlocal := hrequest (X25519Recipient.recipient env recipient) aad expected opened hopen
  simp only [X25519Recipient.recipient, openLocal, mapError_ok, ok_bind, eq_ok,
    decodeEncryptStrict_optional hverified.encryptedLayer] at hlocal
  obtain ⟨_, -, _, -, _, -, cek, hcek, hplaintext⟩ := hlocal
  exact ⟨cek, hcek, hplaintext⟩

/-! ### What was sealed is opened -/

/-- The exchange gives both sides one secret, and the cipher opens what it sealed. -/
structure CoseEnv.Lawful (env : CoseEnv) : Prop where
  exchange : ∀ a b, env.diffieHellman a (env.x25519Public b) = env.diffieHellman b (env.x25519Public a)
  opens : ∀ alg key nonce plaintext aad ciphertext,
    env.aeadSeal alg key nonce plaintext aad = some ciphertext →
    env.aeadOpen alg key nonce ciphertext aad = some plaintext

theorem openLocal_built (hlawful : env.Lawful) {core : EncryptCore}
    {ephemeralPrivate : FixedBytes 32} {nonce : FixedBytes 12} {recipient : X25519Recipient}
    {expected : Option KdfParties} (hbuilt : EncryptedAs env core ephemeralPrivate nonce m)
    (hdecode : decodeEncryptStrict env bytes .optional = .ok m)
    (hkey : env.x25519Public recipient.privateKey = core.recipient.publicKey)
    (hid : recipient.keyId = core.recipient.keyId)
    (hparties : ∀ parties ∈ expected, parties = core.kdfParties) :
    openLocal env recipient ⟨bytes, core.externalAad, expected⟩ = .ok core.plaintext := by
  obtain ⟨_, hcek, hseal⟩ := hbuilt.encrypted
  have hopen := hlawful.opens _ _ _ _ _ _ hseal
  have hshared : env.diffieHellman recipient.privateKey m.ephemeralX =
      env.diffieHellman ephemeralPrivate core.recipient.publicKey := by
    rw [hbuilt.ephemeralX, hlawful.exchange, hkey]
  have hcontributory := hbuilt.contributory
  rw [← hshared] at hcek hcontributory
  have hkid : m.recipientKid = recipient.keyId := hbuilt.recipientKid.trans hid.symm
  have hpinned : ∀ parties ∈ expected, parties = m.parties := by
    rw [hbuilt.parties]
    exact hparties
  simp only [openLocal, hdecode, mapError_ok, ok_bind, ensure_pos hkid, ensure_pos hpinned,
    ensure_pos hcontributory, hcek, orErr, hopen]

theorem verifySealed_unnamed {α : Type} {verifier : Verifier α} {signatureAad : Bytes}
    {outer : DecodedSign1} {embedded : DecodedEncrypt} {verified : α}
    (houter : decodeSign1Strict env bytes .sealedOuter = .ok outer)
    (hembedded : decodeEncryptStrict env outer.payload .required = .ok embedded)
    (hverified : verifier outer.kid outer.algorithm outer.protectedHeaders
      (sigStructure outer.protectedBytes signatureAad outer.payload) outer.signature = .ok verified)
    (hclaims : embedded.claims = some claims) (hsender : claims.senderKeyId ≠ some outer.kid) :
    verifySealed (wireCodec env) bytes verifier signatureAad params = .error .senderKeyMismatch := by
  have hsignature := decodeSign1Strict_signature houter
  simp only [verifySealed, wireCodec, houter, hembedded, pure, Except.pure, mapError_ok, ok_bind,
    ensure_pos hsignature, hverified, hclaims, orErr, ensure_neg hsender]
  rfl

theorem clearEnv_lawful : clearEnv.Lawful where
  exchange a b := by
    refine FixedBytes.ext ?_
    exact List.zipWith_comm_of_comm fun x y => UInt8.add_comm x y
  opens alg key nonce plaintext aad ciphertext h := by
    obtain rfl := Option.some.inj h
    have htake : (plaintext ++ (key.bytes ++ nonce.bytes ++ aad)).take
        ((plaintext ++ (key.bytes ++ nonce.bytes ++ aad)).length -
          (key.bytes ++ nonce.bytes ++ aad).length) = plaintext := by
      rw [List.length_append, Nat.add_sub_cancel, List.take_left]
    show (if _ then _ else _) = _
    rw [htake, if_pos rfl]

def clearVerifier : Verifier Unit := fun kid _ _ message signature =>
  ensure (kid = clearSigner.keyId ∧ signature = 0 :: message) .signatureInvalid

def replyValidation : ValidationParams where
  now := 150
  maxClockSkew := 5
  maxTtl := 300
  defaultTtl := 60
  allowedAudiences := replyClaims.audience.toList
  role := .response

def replyReader : X25519Recipient := ⟨replyRecipient.publicKey, replyRecipient.keyId⟩

theorem replyClaims_acceptable : replyClaims.Acceptable (wireCodec clearEnv) replyValidation where
  notFuture := by decide
  lifetime := by decide
  notExpired := by decide
  audience := .inr (by decide)
  responseKey := nofun
  required := by decide
  forbidden := by decide

theorem sealed_reply_opens : ∃ bytes sealed embedded cek,
    verifySealed (wireCodec clearEnv) bytes clearVerifier replySealed.signatureAad replyValidation =
      .ok (sealed, ()) ∧
    sealed.claims = replyClaims ∧
    sealed.openSealed (X25519Recipient.recipient clearEnv replyReader) replySealed.encryptionAad none =
      .ok ⟨[1, 2], "a/b"⟩ ∧
    decodeEncryptStrict clearEnv sealed.encryptBytes .required = .ok embedded ∧
    clearEnv.aeadOpen embedded.contentAlgorithm cek embedded.iv embedded.ciphertext
      (encStructure embedded.protectedBytes replySealed.encryptionAad) = some [1, 2] := by
  obtain ⟨bytes, hbuilt, hfits⟩ := replySealed_built
  obtain ⟨_, _, -, hinner⟩ := drawn_eq_ok.mp hbuilt
  obtain ⟨outer, embedded, houter, hembedded, hsealed⟩ := buildSealedInner_decodes hinner
    replyClaims_admissible ⟨by decide, by decide⟩ hfits
  obtain ⟨signature, hsign, hsignature⟩ := hsealed.signed
  have hsame : (0 :: sigStructure outer.protectedBytes replySealed.signatureAad outer.payload) =
      signature.1 := congrArg Subtype.val (Except.ok.inj hsign)
  have haccepted : clearVerifier outer.kid outer.algorithm outer.protectedHeaders
      (sigStructure outer.protectedBytes replySealed.signatureAad outer.payload) outer.signature =
      .ok () := ensure_pos ⟨hsealed.kid, hsignature.trans hsame.symm⟩ _
  have hverified : Verified clearEnv bytes clearVerifier replySealed.signatureAad replyValidation outer
      embedded replyClaims () :=
    ⟨houter, hembedded, haccepted, hsealed.embedded.claims, replyClaims_acceptable,
      congrArg some hsealed.kid.symm⟩
  let sealed : VerifiedSealed := ⟨replyClaims, embedded.contentType.1, outer.kid, outer.protectedHeaders,
    embedded.recipientKid, embedded.parties, outer.payload⟩
  have hexact := verifySealed_exact clearEnv bytes clearVerifier replySealed.signatureAad replyValidation
    sealed ()
  have hok := hexact.1.mpr ⟨outer, embedded, replyClaims, hverified, rfl⟩
  have hkey : clearEnv.x25519Public replyReader.privateKey = replySealed.core.recipient.publicKey := rfl
  have hkeyId : replyReader.keyId = replySealed.core.recipient.keyId := rfl
  have hanyone : ∀ parties ∈ (none : Option KdfParties), parties = replySealed.core.kdfParties :=
    nofun
  have hlocal := openLocal_built clearEnv_lawful hsealed.embedded (decodeEncryptStrict_optional hembedded)
    hkey hkeyId hanyone
  have hid : (X25519Recipient.recipient clearEnv replyReader).keyId = sealed.recipientKeyId :=
    hsealed.embedded.recipientKid.symm
  have hnone : ∀ expected ∈ (none : Option KdfParties), expected = sealed.parties :=
    nofun
  have hopen : sealed.openSealed (X25519Recipient.recipient clearEnv replyReader)
      replySealed.encryptionAad none = .ok ⟨[1, 2], "a/b"⟩ := by
    have htype : sealed.contentType = "a/b" := congrArg Subtype.val hsealed.embedded.contentType
    have hmessage : (X25519Recipient.recipient clearEnv replyReader).openMessage
        ⟨sealed.encryptBytes, replySealed.encryptionAad, none⟩ = .ok [1, 2] := hlocal
    rw [VerifiedSealed.openSealed, ensure_pos hid, ensure_pos hnone]
    simp only [ok_bind, hmessage, htype]
    rfl
  obtain ⟨outer', embedded', _, hverified', -, hciphertext⟩ := hexact.2 hok
  obtain rfl : outer = outer' := Except.ok.inj (houter.symm.trans hverified'.signedLayer)
  obtain ⟨cek, -, hplain⟩ := hciphertext replyReader _ none _ hopen
  exact ⟨bytes, sealed, embedded', cek, hok, rfl, hopen, hverified'.encryptedLayer, hplain⟩

/-! ### A response that does not name its sender -/

def unnamedClaims : Claims := { replyClaims with senderKeyId := none }

def unnamedCore : EncryptCore := { replySealed.core with claims := some unnamedClaims }

def signClear (encryptBytes : Bytes) : Bytes :=
  let protectedBytes := encodeSign1ProtectedSealedOuterWithHeaders .edDsa clearSigner.keyId none
  assembleSign1 protectedBytes encryptBytes (0 :: sigStructure protectedBytes [9] encryptBytes)

theorem unnamedCore_built : ∃ encryptBytes,
    buildEncryptCore clearEnv unnamedCore (FixedBytes.fill 32 4) (FixedBytes.fill 12 5) =
      .ok encryptBytes ∧
    encryptBytes.length < 2 ^ 64 ∧ (signClear encryptBytes).length < 2 ^ 64 := by
  have hcrit : critLabels (some unnamedClaims) none = [3, 15, -70001, -70002] := by
    rw [critLabels, noHeaders_crit]
    exact sortLabels_of_ordered (by decide)
  simp only [buildEncryptCore, encodeEncryptProtected, writeClaimsCapableTail, unnamedCore, hcrit]
  exact ⟨_, rfl, by decide +kernel, by decide +kernel⟩

theorem unnamedClaims_acceptable : unnamedClaims.Acceptable (wireCodec clearEnv) replyValidation :=
  { replyClaims_acceptable with
    required := by decide
    forbidden := by decide }

theorem unnamed_reply_rejected : ∃ bytes outer embedded claims,
    decodeSign1Strict clearEnv bytes .sealedOuter = .ok outer ∧
    decodeEncryptStrict clearEnv outer.payload .required = .ok embedded ∧
    clearVerifier outer.kid outer.algorithm outer.protectedHeaders
      (sigStructure outer.protectedBytes [9] outer.payload) outer.signature = .ok () ∧
    embedded.claims = some claims ∧ claims.Acceptable (wireCodec clearEnv) replyValidation ∧
    (∀ sender ∈ claims.senderKeyId, sender = outer.kid) ∧
    verifySealed (wireCodec clearEnv) bytes clearVerifier [9] replyValidation =
      .error .senderKeyMismatch := by
  obtain ⟨_, hbuilt, hencryptFits, hfits⟩ := unnamedCore_built
  have hadmissible : unnamedClaims.Admissible clearEnv := { replyClaims_admissible with }
  obtain ⟨embedded, hcarries, hdecode⟩ := buildEncryptCore_decodes hbuilt
    (fun c hc => Option.mem_some_iff.mp hc ▸ hadmissible) ⟨by decide, by decide⟩ hencryptFits
  have hembedded := hdecode .required nofun nofun
  have hheader : decodeSign1Header clearEnv
      (encodeSign1ProtectedSealedOuterWithHeaders .edDsa clearSigner.keyId none) .sealedOuter =
      .ok (.edDsa, clearSigner.keyId, none, none, headersOf none,
        encodeSign1ProtectedSealedOuterWithHeaders .edDsa clearSigner.keyId none) :=
    decodeSign1Header_sealedOuter (by decide +kernel)
  have houter := decodeSign1Strict_assemble hheader (List.cons_ne_nil _ _) hfits
  have hsender : unnamedClaims.senderKeyId ≠ some clearSigner.keyId := nofun
  have hwhenPresent : ∀ sender ∈ unnamedClaims.senderKeyId, sender = clearSigner.keyId :=
    nofun
  have haccepted (message : Bytes) : clearVerifier clearSigner.keyId .edDsa (headersOf none) message
      (0 :: message) = .ok () := ensure_pos ⟨rfl, rfl⟩ _
  exact ⟨_, _, embedded, unnamedClaims, houter, hembedded, haccepted _, hcarries.claims,
    unnamedClaims_acceptable, hwhenPresent,
    verifySealed_unnamed houter hembedded (haccepted _) hcarries.claims hsender⟩

/-! ### The validity window in exact integers -/

structure Claims.InWindow (claims : Claims) (params : ValidationParams) : Prop where
  notFuture : claims.issuedAt ≤ params.now + params.maxClockSkew
  lifetime : ∀ exp ∈ claims.expiresAt, claims.issuedAt < exp ∧ exp - claims.issuedAt ≤ params.maxTtl
  notExpired : params.now ≤
    claims.expiresAt.getD (claims.issuedAt + params.defaultTtl) + params.maxClockSkew

section Exact

variable {a b : Int} {d skew : Nat} (ha : InI64 a) (hb : InI64 b)
include ha hb

theorem le_satAdd_iff (hd : 0 ≤ b ∨ d ≤ i64Max) : a ≤ satAddI64 b (secsI64 d) ↔ a ≤ b + d := by
  simp only [InI64, satAddI64, clampI64, secsI64, i64Min, i64Max] at *
  omega

theorem le_satAdd_satAdd_iff (hd : 0 ≤ b ∨ skew ≤ i64Max ∧ d ≤ i64Max) :
    a ≤ satAddI64 (satAddI64 b (secsI64 d)) (secsI64 skew) ↔ a ≤ b + d + skew := by
  simp only [InI64, satAddI64, clampI64, secsI64, i64Min, i64Max] at *
  omega

theorem span_iff (hd : 0 ≤ b ∨ d < i64Max) :
    (0 < satSubI64 a b ∧ satSubI64 a b ≤ secsI64 d) ↔ (b < a ∧ a - b ≤ d) := by
  simp only [InI64, satSubI64, clampI64, secsI64, i64Min, i64Max] at *
  omega

end Exact

theorem validate_exact (hiat : InI64 claims.issuedAt) (hexp : ∀ exp ∈ claims.expiresAt, InI64 exp)
    (hnow : InI64 params.now)
    (hclock : 0 ≤ params.now ∨ params.maxClockSkew ≤ i64Max)
    (hissued : 0 ≤ claims.issuedAt ∨
      (params.maxClockSkew ≤ i64Max ∧ params.defaultTtl ≤ i64Max ∧ params.maxTtl < i64Max)) :
    claims.validate codec params = .ok () ↔ claims.InWindow params ∧
      (params.allowedAudiences = [] ∨ ∀ aud ∈ claims.audience, aud ∈ params.allowedAudiences) ∧
      claims.validateRole codec params.role = .ok () := by
  have hfuture := le_satAdd_iff hiat hnow hclock
  have hlife := forall₂_congr fun exp h => span_iff (hexp exp h) hiat (hissued.imp_right (·.2.2))
  have hexpired (hl : ∀ exp ∈ claims.expiresAt,
        claims.issuedAt < exp ∧ exp - claims.issuedAt ≤ params.maxTtl) :
      params.now ≤ satAddI64 (claims.expiresAt.getD (satAddI64 claims.issuedAt
        (secsI64 params.defaultTtl))) (secsI64 params.maxClockSkew) ↔ params.now ≤
        claims.expiresAt.getD (claims.issuedAt + params.defaultTtl) + params.maxClockSkew := by
    cases hcase : claims.expiresAt with
    | none => exact le_satAdd_satAdd_iff hnow hiat (hissued.imp_right fun h => ⟨h.1, h.2.1⟩)
    | some exp =>
      have hafter := (hl exp hcase).1
      exact le_satAdd_iff hnow (hexp exp hcase) (hissued.imp (·.trans hafter.le) And.left)
  simp only [validate, eq_ok, effectiveExpiry_eq_ok]
  constructor
  · rintro ⟨_, hf, _, ⟨hl, rfl⟩, _, hx, _, haudience, hrole⟩
    have hl' := hlife.mp hl
    exact ⟨⟨hfuture.mp hf, hl', (hexpired hl').mp hx⟩, haudience, hrole⟩
  · rintro ⟨⟨hf, hl, hx⟩, haudience, hrole⟩
    exact ⟨(), hfuture.mpr hf, _, ⟨hlife.mpr hl, rfl⟩, (), (hexpired hl).mpr hx, (), haudience, hrole⟩

theorem reply_validated_exactly : replyClaims.InWindow replyValidation :=
  ((validate_exact (by decide) (by decide) (by decide) (.inl (by decide)) (.inl (by decide))).mp
    (validate_eq_ok.mpr replyClaims_acceptable)).1

-- a lifetime of 2 ^ 63 seconds under a maximum of 2 ^ 63 - 1
def longClaims : Claims := { replyClaims with issuedAt := -1, expiresAt := some i64Max }

def longParams : ValidationParams := { replyValidation with maxTtl := 2 ^ 63 - 1 }

theorem saturated_lifetime_accepted : InI64 longClaims.issuedAt ∧
    (∀ exp ∈ longClaims.expiresAt, InI64 exp) ∧ InI64 longParams.now ∧
    longClaims.validate (wireCodec clearEnv) longParams = .ok () ∧
    ¬ longClaims.InWindow longParams := by
  refine ⟨by decide, by decide, by decide, validate_eq_ok.mpr ?_, fun h => ?_⟩
  · exact { replyClaims_acceptable with
      notFuture := by decide
      lifetime := by decide
      notExpired := by decide }
  · exact absurd (h.lifetime i64Max rfl).2 (by decide)

end Basil.Cose
