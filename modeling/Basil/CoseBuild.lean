import Basil.CoseMessages
import Mathlib.Data.UInt

/-!
# The COSE builders (`basil-cose/src/{sign,encrypt,seal}.rs`)

Whatever a builder returns is decoded to what was put in, and the decoder rebuilds the bytes that
were signed and authenticated.
-/

namespace Basil.Cose

open Cbor

inductive SignError where
  | algorithmUnsupported
  | provider (message : String)
  deriving DecidableEq

inductive BuildError where
  | senderKeyMismatch
  | roleShape (error : ClaimsError)
  | responseKeyNotText
  | responsePublicKeyRequiresEncryption
  | rng
  | sealFailed
  | sign (error : SignError)
  | codec
  deriving DecidableEq

structure Signer where
  keyId : KeyId
  algorithm : SignatureAlgorithm
  sign : Bytes → Except SignError Signature

structure X25519RecipientPublic where
  keyId : KeyId
  publicKey : FixedBytes 32

variable (env : CoseEnv)

/-- The profile over its own wire form. An embedded message without its tag has an error of its
own. -/
def wireCodec : Codec where
  decodeSign1 bytes := do
    let m ← (decodeSign1Strict env bytes .sealedOuter).mapError DecodeError.display
    return ⟨m.kid, m.algorithm, m.protectedHeaders, m.protectedBytes, m.payload, m.signature⟩
  decodeEncrypt bytes := do
    let m ← (decodeEncryptStrict env bytes .required).mapError fun
      | .notTagged => DecodeError.embeddedNotEncrypt.display
      | .wrongTag _ _ => DecodeError.embeddedNotEncrypt.display
      | error => error.display
    return ⟨m.claims, m.contentType.1, m.recipientKid, m.parties⟩
  sigStructure := sigStructure
  responseThumbprint := thumbprint env

/-! ### Signed messages -/

structure SignParams where
  contentType : ContentType
  payload : Bytes
  claims : Option Claims
  externalAad : Bytes

def checkSignedClaims (signer : Signer) : Option Claims → Except BuildError Unit
  | some claims => do
      ensure (∀ sender ∈ claims.senderKeyId, sender = signer.keyId) .senderKeyMismatch
      ensure (∀ id ∈ claims.responseKeyId, id.asCatalogName ≠ none) .responseKeyNotText
      ensure (claims.responsePublicKeyCose = none) .responsePublicKeyRequiresEncryption
  | none => .ok ()

def buildSignedWithHeaders (params : SignParams) (headers : ProtectedHeaders) (signer : Signer) :
    Except BuildError Bytes := do
  checkSignedClaims signer params.claims
  let protectedBytes ← (encodeSign1ProtectedBareWithHeaders env signer.algorithm signer.keyId
    params.contentType params.claims (some headers)).mapError fun _ => BuildError.codec
  let signature ← (signer.sign (sigStructure protectedBytes params.externalAad params.payload)).mapError
    BuildError.sign
  return assembleSign1 protectedBytes params.payload signature.1

def buildSigned (params : SignParams) (signer : Signer) : Except BuildError Bytes :=
  buildSignedWithHeaders env params ⟨[], none, none⟩ signer

/-! ### Encrypted messages -/

structure EncryptCore where
  contentAlgorithm : ContentAlgorithm
  contentType : ContentType
  claims : Option Claims
  plaintext : Bytes
  recipient : X25519RecipientPublic
  externalAad : Bytes
  kdfParties : KdfParties

def wasContributory (shared : FixedBytes 32) : Prop := ∃ b ∈ shared.bytes, b ≠ 0

instance (shared : FixedBytes 32) : Decidable (wasContributory shared) :=
  inferInstanceAs (Decidable (∃ b ∈ shared.bytes, b ≠ 0))

def buildEncryptCore (core : EncryptCore) (ephemeralPrivate : FixedBytes 32) (nonce : FixedBytes 12) :
    Except BuildError Bytes := do
  let shared := env.diffieHellman ephemeralPrivate core.recipient.publicKey
  ensure (wasContributory shared) .sealFailed
  let recipientProtected := encodeRecipientProtected core.kdfParties
  let info := kdfContext core.contentAlgorithm core.kdfParties recipientProtected
  let cek ← orErr (env.deriveCek shared info) .sealFailed
  let protectedBytes ← (encodeEncryptProtected env core.contentAlgorithm core.contentType
    core.claims).mapError fun _ => BuildError.codec
  let aad := encStructure protectedBytes core.externalAad
  let ciphertext ← orErr (env.aeadSeal core.contentAlgorithm cek nonce core.plaintext aad) .sealFailed
  return assembleEncrypt ⟨protectedBytes, nonce, ciphertext, recipientProtected, core.recipient.keyId,
    env.x25519Public ephemeralPrivate⟩

structure SealDraws where
  ephemeral : Option (FixedBytes 32)
  nonce : Option (FixedBytes 12)

structure EncryptParams where
  contentType : ContentType
  plaintext : Bytes
  recipient : X25519RecipientPublic
  contentAlgorithm : ContentAlgorithm
  externalAad : Bytes
  kdfParties : KdfParties

def EncryptParams.core (params : EncryptParams) : EncryptCore where
  contentAlgorithm := params.contentAlgorithm
  contentType := params.contentType
  claims := none
  plaintext := params.plaintext
  recipient := params.recipient
  externalAad := params.externalAad
  kdfParties := params.kdfParties

def buildEncrypted (params : EncryptParams) (draws : SealDraws) : Except BuildError Bytes := do
  let ephemeral ← orErr draws.ephemeral .rng
  let nonce ← orErr draws.nonce .rng
  buildEncryptCore env params.core ephemeral nonce

/-! ### Sealed messages -/

structure SealParams where
  contentType : ContentType
  plaintext : Bytes
  claims : Claims
  role : MessageRole
  recipient : X25519RecipientPublic
  contentAlgorithm : ContentAlgorithm
  signatureAad : Bytes
  encryptionAad : Bytes
  kdfParties : KdfParties

def SealParams.core (params : SealParams) : EncryptCore where
  contentAlgorithm := params.contentAlgorithm
  contentType := params.contentType
  claims := some params.claims
  plaintext := params.plaintext
  recipient := params.recipient
  externalAad := params.encryptionAad
  kdfParties := params.kdfParties

def checkSealClaims (params : SealParams) (signer : Signer) : Except BuildError Unit := do
  (params.claims.validateRole (wireCodec env) params.role).mapError .roleShape
  ensure (params.claims.senderKeyId = some signer.keyId) .senderKeyMismatch
  ensure (∀ id ∈ params.claims.responseKeyId, id.asCatalogName ≠ none) .responseKeyNotText

def sealedOuterProtected (signer : Signer) : Option ProtectedHeaders → Bytes
  | none => encodeSign1ProtectedSealedOuter signer.algorithm signer.keyId
  | some h => encodeSign1ProtectedSealedOuterWithHeaders signer.algorithm signer.keyId (some h)

def buildSealedInner (params : SealParams) (signer : Signer) (ephemeralPrivate : FixedBytes 32)
    (nonce : FixedBytes 12) (headers : Option ProtectedHeaders) : Except BuildError Bytes := do
  checkSealClaims env params signer
  let encryptBytes ← buildEncryptCore env params.core ephemeralPrivate nonce
  let protectedBytes := sealedOuterProtected signer headers
  let signature ← (signer.sign (sigStructure protectedBytes params.signatureAad encryptBytes)).mapError
    BuildError.sign
  return assembleSign1 protectedBytes encryptBytes signature.1

def buildSealed (params : SealParams) (signer : Signer) (draws : SealDraws) :
    Except BuildError Bytes := do
  let ephemeral ← orErr draws.ephemeral .rng
  let nonce ← orErr draws.nonce .rng
  buildSealedInner env params signer ephemeral nonce none

def buildSealedWithHeaders (params : SealParams) (headers : ProtectedHeaders) (signer : Signer)
    (draws : SealDraws) : Except BuildError Bytes := do
  let ephemeral ← orErr draws.ephemeral .rng
  let nonce ← orErr draws.nonce .rng
  buildSealedInner env params signer ephemeral nonce (some headers)

/-! ### What a decoded message carries -/

structure SignedAs (params : SignParams) (headers : ProtectedHeaders) (signer : Signer)
    (m : DecodedSign1) : Prop where
  algorithm : m.algorithm = signer.algorithm
  kid : m.kid = signer.keyId
  contentType : m.contentType = some params.contentType
  claims : m.claims = params.claims
  protectedHeaders : m.protectedHeaders = headers
  payload : m.payload = params.payload
  encoded : encodeSign1ProtectedBareWithHeaders env signer.algorithm signer.keyId params.contentType
    params.claims (some headers) = .ok m.protectedBytes
  signed : ∃ signature, signer.sign (sigStructure m.protectedBytes params.externalAad m.payload) =
    .ok signature ∧ m.signature = signature.1

structure EncryptedAs (core : EncryptCore) (ephemeralPrivate : FixedBytes 32) (nonce : FixedBytes 12)
    (m : DecodedEncrypt) : Prop where
  contentAlgorithm : m.contentAlgorithm = core.contentAlgorithm
  contentType : m.contentType = core.contentType
  claims : m.claims = core.claims
  recipientKid : m.recipientKid = core.recipient.keyId
  parties : m.parties = core.kdfParties
  iv : m.iv = nonce
  ephemeralX : m.ephemeralX = env.x25519Public ephemeralPrivate
  encoded : encodeEncryptProtected env core.contentAlgorithm core.contentType core.claims =
    .ok m.protectedBytes
  recipientEncoded : encodeRecipientProtected core.kdfParties = m.recipientProtected
  contributory : wasContributory (env.diffieHellman ephemeralPrivate core.recipient.publicKey)
  encrypted : ∃ cek, env.deriveCek (env.diffieHellman ephemeralPrivate core.recipient.publicKey)
      (kdfContext m.contentAlgorithm m.parties m.recipientProtected) = some cek ∧
    env.aeadSeal m.contentAlgorithm cek m.iv core.plaintext
      (encStructure m.protectedBytes core.externalAad) = some m.ciphertext

/-- A decoded sealed message: the signature is over the embedded message. -/
structure SealedAs (params : SealParams) (headers : ProtectedHeaders) (signer : Signer)
    (ephemeralPrivate : FixedBytes 32) (nonce : FixedBytes 12) (outer : DecodedSign1)
    (embedded : DecodedEncrypt) : Prop where
  algorithm : outer.algorithm = signer.algorithm
  kid : outer.kid = signer.keyId
  contentType : outer.contentType = none
  claims : outer.claims = none
  protectedHeaders : outer.protectedHeaders = headers
  encoded : encodeSign1ProtectedSealedOuterWithHeaders signer.algorithm signer.keyId (some headers) =
    outer.protectedBytes
  signed : ∃ signature, signer.sign
      (sigStructure outer.protectedBytes params.signatureAad outer.payload) = .ok signature ∧
    outer.signature = signature.1
  embedded : EncryptedAs env params.core ephemeralPrivate nonce embedded

variable {env}

variable {bytes : Bytes}

theorem buildSignedWithHeaders_decodes {params : SignParams} {headers : ProtectedHeaders}
    {signer : Signer} (hbuild : buildSignedWithHeaders env params headers signer = .ok bytes)
    (hclaims : ∀ c ∈ params.claims, c.Admissible env) (hfits : bytes.length < 2 ^ 64) :
    ∃ m, decodeSign1Strict env bytes .bare = .ok m ∧ SignedAs env params headers signer m := by
  simp only [buildSignedWithHeaders, eq_ok] at hbuild
  obtain ⟨_, hcheck, protectedBytes, hencode, signature, hsign, rfl⟩ := hbuild
  have hresponse : params.claims.bind Claims.responsePublicKeyCose = none := by
    cases hc : params.claims with
    | none => rfl
    | some claims =>
      rw [hc] at hcheck
      simp only [checkSignedClaims, eq_ok] at hcheck
      obtain ⟨_, -, _, -, hnone⟩ := hcheck
      exact hnone
  have hprotectedFits : protectedBytes.length < 2 ^ 64 := by
    simp only [assembleSign1, bstr, List.length_append] at hfits
    omega
  have hheader := decodeSign1Header_bare hencode hclaims hresponse hprotectedFits
  exact ⟨_, decodeSign1Strict_assemble hheader signature.2 hfits,
    ⟨rfl, rfl, rfl, rfl, rfl, rfl, hencode, signature, hsign, rfl⟩⟩

theorem buildEncryptCore_decodes {core : EncryptCore} {ephemeralPrivate : FixedBytes 32}
    {nonce : FixedBytes 12} (hbuild : buildEncryptCore env core ephemeralPrivate nonce = .ok bytes)
    (hclaims : ∀ c ∈ core.claims, c.Admissible env) (hparties : core.kdfParties.Admissible)
    (hfits : bytes.length < 2 ^ 64) :
    ∃ m, EncryptedAs env core ephemeralPrivate nonce m ∧
      ∀ expectation, (expectation = .required → core.claims ≠ none) →
        (expectation = .forbidden → core.claims = none) →
        decodeEncryptStrict env bytes expectation = .ok m := by
  simp only [buildEncryptCore, eq_ok] at hbuild
  obtain ⟨_, hcontributory, cek, hcek, protectedBytes, hencode, ciphertext, hseal, rfl⟩ := hbuild
  refine ⟨⟨protectedBytes, core.contentAlgorithm, core.contentType, core.claims, nonce, ciphertext,
    encodeRecipientProtected core.kdfParties, core.recipient.keyId, env.x25519Public ephemeralPrivate,
    core.kdfParties⟩, ⟨rfl, rfl, rfl, rfl, rfl, rfl, rfl, hencode, rfl, hcontributory, cek, hcek, hseal⟩, ?_⟩
  intro expectation hrequired hforbidden
  exact decodeEncryptStrict_assemble hencode rfl hclaims hparties hrequired hforbidden hfits

theorem buildSealedInner_decodes {params : SealParams} {signer : Signer}
    {ephemeralPrivate : FixedBytes 32} {nonce : FixedBytes 12} {headers : Option ProtectedHeaders}
    (hbuild : buildSealedInner env params signer ephemeralPrivate nonce headers = .ok bytes)
    (hclaims : params.claims.Admissible env) (hparties : params.kdfParties.Admissible)
    (hfits : bytes.length < 2 ^ 64) :
    ∃ outer embedded, decodeSign1Strict env bytes .sealedOuter = .ok outer ∧
      decodeEncryptStrict env outer.payload .required = .ok embedded ∧
      SealedAs env params (headersOf headers) signer ephemeralPrivate nonce outer embedded := by
  have houter : sealedOuterProtected signer headers =
      encodeSign1ProtectedSealedOuterWithHeaders signer.algorithm signer.keyId headers := by
    cases headers <;> rfl
  have hempty : encodeSign1ProtectedSealedOuterWithHeaders signer.algorithm signer.keyId
      (some (headersOf headers)) =
      encodeSign1ProtectedSealedOuterWithHeaders signer.algorithm signer.keyId headers := by
    cases headers <;> rfl
  simp only [buildSealedInner, houter, eq_ok] at hbuild
  obtain ⟨_, -, encryptBytes, hencrypt, signature, hsign, rfl⟩ := hbuild
  obtain ⟨hprotectedFits, hencryptFits⟩ :
      (encodeSign1ProtectedSealedOuterWithHeaders signer.algorithm signer.keyId headers).length < 2 ^ 64 ∧
      encryptBytes.length < 2 ^ 64 := by
    simp only [assembleSign1, bstr, List.length_append] at hfits
    omega
  obtain ⟨embedded, hcarries, hdecode⟩ := buildEncryptCore_decodes hencrypt
    (fun c hc => by cases hc; exact hclaims) hparties hencryptFits
  have hheader : decodeSign1Header env
      (encodeSign1ProtectedSealedOuterWithHeaders signer.algorithm signer.keyId headers) .sealedOuter =
      .ok (signer.algorithm, signer.keyId, none, none, headersOf headers,
        encodeSign1ProtectedSealedOuterWithHeaders signer.algorithm signer.keyId headers) :=
    decodeSign1Header_sealedOuter hprotectedFits
  exact ⟨_, embedded, decodeSign1Strict_assemble hheader signature.2 hfits, hdecode .required nofun nofun,
    ⟨rfl, rfl, rfl, rfl, rfl, hempty, ⟨signature, hsign, rfl⟩, hcarries⟩⟩

theorem drawn_eq_ok {draws : SealDraws}
    {build : FixedBytes 32 → FixedBytes 12 → Except BuildError Bytes} :
    (do
      let ephemeral ← orErr draws.ephemeral BuildError.rng
      let nonce ← orErr draws.nonce BuildError.rng
      build ephemeral nonce) = .ok bytes ↔
    ∃ ephemeral nonce, draws = ⟨some ephemeral, some nonce⟩ ∧ build ephemeral nonce = .ok bytes := by
  obtain ⟨ephemeral, nonce⟩ := draws
  simp [and_assoc]

theorem built_messages_decode (env : CoseEnv) (signer : Signer) :
    (∀ params headers bytes, (∀ c ∈ params.claims, c.Admissible env) → bytes.length < 2 ^ 64 →
      buildSignedWithHeaders env params headers signer = .ok bytes →
      ∃ m, decodeSign1Strict env bytes .bare = .ok m ∧ SignedAs env params headers signer m) ∧
    (∀ params bytes, (∀ c ∈ params.claims, c.Admissible env) → bytes.length < 2 ^ 64 →
      buildSigned env params signer = .ok bytes →
      ∃ m, decodeSign1Strict env bytes .bare = .ok m ∧
        SignedAs env params ⟨[], none, none⟩ signer m) ∧
    (∀ params headers draws bytes, params.claims.Admissible env → params.kdfParties.Admissible →
      bytes.length < 2 ^ 64 → buildSealedWithHeaders env params headers signer draws = .ok bytes →
      ∃ ephemeral nonce outer embedded, draws = ⟨some ephemeral, some nonce⟩ ∧
        decodeSign1Strict env bytes .sealedOuter = .ok outer ∧
        decodeEncryptStrict env outer.payload .required = .ok embedded ∧
        SealedAs env params headers signer ephemeral nonce outer embedded) ∧
    (∀ params draws bytes, params.claims.Admissible env → params.kdfParties.Admissible →
      bytes.length < 2 ^ 64 → buildSealed env params signer draws = .ok bytes →
      ∃ ephemeral nonce outer embedded, draws = ⟨some ephemeral, some nonce⟩ ∧
        decodeSign1Strict env bytes .sealedOuter = .ok outer ∧
        decodeEncryptStrict env outer.payload .required = .ok embedded ∧
        SealedAs env params ⟨[], none, none⟩ signer ephemeral nonce outer embedded) ∧
    (∀ params draws bytes, params.kdfParties.Admissible → bytes.length < 2 ^ 64 →
      buildEncrypted env params draws = .ok bytes →
      ∃ ephemeral nonce m, draws = ⟨some ephemeral, some nonce⟩ ∧
        decodeEncryptStrict env bytes .forbidden = .ok m ∧
        EncryptedAs env params.core ephemeral nonce m) := by
  refine ⟨?_, ?_, ?_, ?_, ?_⟩
  · intro params headers bytes hclaims hfits hbuild
    exact buildSignedWithHeaders_decodes hbuild hclaims hfits
  · intro params bytes hclaims hfits hbuild
    exact buildSignedWithHeaders_decodes hbuild hclaims hfits
  · intro params headers draws bytes hclaims hparties hfits hbuild
    obtain ⟨ephemeral, nonce, hdraws, hinner⟩ := drawn_eq_ok.mp hbuild
    obtain ⟨outer, embedded, hdecoded⟩ := buildSealedInner_decodes hinner hclaims hparties hfits
    exact ⟨ephemeral, nonce, outer, embedded, hdraws, hdecoded⟩
  · intro params draws bytes hclaims hparties hfits hbuild
    obtain ⟨ephemeral, nonce, hdraws, hinner⟩ := drawn_eq_ok.mp hbuild
    obtain ⟨outer, embedded, hdecoded⟩ := buildSealedInner_decodes hinner hclaims hparties hfits
    exact ⟨ephemeral, nonce, outer, embedded, hdraws, hdecoded⟩
  · intro params draws bytes hparties hfits hbuild
    obtain ⟨ephemeral, nonce, hdraws, hcore⟩ := drawn_eq_ok.mp hbuild
    have hclaims : ∀ c ∈ params.core.claims, c.Admissible env := fun c hc => by cases hc
    obtain ⟨m, hcarries, hdecode⟩ := buildEncryptCore_decodes hcore hclaims hparties hfits
    exact ⟨ephemeral, nonce, m, hdraws, hdecode .forbidden nofun fun _ => rfl, hcarries⟩

/-! ### A message of each kind -/

def clearEnv : CoseEnv where
  x25519Public key := key
  diffieHellman a b := ⟨List.zipWith (· + ·) a.bytes b.bytes, by simp [a.length_eq, b.length_eq]⟩
  sha256 bytes := FixedBytes.fill 32 bytes.sum
  deriveCek shared info := some ⟨shared.bytes.map (· + UInt8.ofNat info.length), by simp [shared.length_eq]⟩
  aeadSeal _ key nonce plaintext aad := some (plaintext ++ (key.bytes ++ nonce.bytes ++ aad))
  aeadOpen _ key nonce ciphertext aad :=
    let tag := key.bytes ++ nonce.bytes ++ aad
    let plaintext := ciphertext.take (ciphertext.length - tag.length)
    if plaintext ++ tag = ciphertext then some plaintext else none

def clearSigner : Signer where
  keyId := ⟨[11], by decide⟩
  algorithm := .edDsa
  sign bytes := .ok ⟨0 :: bytes, List.cons_ne_nil _ _⟩

def replyType : ContentType := ⟨"a/b", by decide⟩

def replyHeaders : ProtectedHeaders := ⟨["jwt"], some [5], some ⟨[6], by decide⟩⟩

def replyClaims : Claims where
  issuer := none
  audience := some ⟨"peer", by decide⟩
  expiresAt := some 200
  issuedAt := 100
  messageId := ⟨[1], by decide⟩
  senderKeyId := some clearSigner.keyId
  responseKeyId := none
  responseSubject := none
  inReplyTo := some ⟨[2], by decide⟩
  requestHash := some (FixedBytes.fill 32 9)
  freshnessChallenge := none
  responsePublicKeyCose := none

def replyRecipient : X25519RecipientPublic := ⟨⟨[12], by decide⟩, FixedBytes.fill 32 3⟩

def replyDraws : SealDraws := ⟨some (FixedBytes.fill 32 4), some (FixedBytes.fill 12 5)⟩

def replySigned : SignParams := ⟨replyType, [1, 2], some replyClaims, [9]⟩

def replyEncrypted : EncryptParams :=
  ⟨replyType, [1, 2], replyRecipient, .a256Gcm, [8], ⟨some [1], none⟩⟩

def replySealed : SealParams :=
  ⟨replyType, [1, 2], replyClaims, .response, replyRecipient, .chaCha20Poly1305, [9], [8],
    ⟨some [1], some [2]⟩⟩

theorem sortLabels_of_ordered {labels : List Int}
    (h : labels.Pairwise fun a b => (compareKeys (canonicalSortKey a) (canonicalSortKey b)).isLE) :
    sortLabels labels = labels :=
  List.mergeSort_of_pairwise h

theorem replyHeaders_crit : protectedHeaderCritLabels (some replyHeaders) = [-70006, -70007, -70010] :=
  sortLabels_of_ordered (by decide)

theorem noHeaders_crit : protectedHeaderCritLabels none = [] := sortLabels_of_ordered .nil

theorem replySigned_built : ∃ bytes,
    buildSignedWithHeaders clearEnv replySigned replyHeaders clearSigner = .ok bytes ∧
    bytes.length < 2 ^ 64 := by
  have hcrit : critLabels (some replyClaims) (some replyHeaders) =
      [3, 15, -70001, -70002, -70003, -70006, -70007, -70010] := by
    rw [critLabels, replyHeaders_crit]
    exact sortLabels_of_ordered (by decide)
  simp only [buildSignedWithHeaders, encodeSign1ProtectedBareWithHeaders, writeClaimsCapableTail,
    replySigned, hcrit]
  exact ⟨_, rfl, by decide +kernel⟩

theorem replyEncrypted_built : ∃ bytes,
    buildEncrypted clearEnv replyEncrypted replyDraws = .ok bytes ∧ bytes.length < 2 ^ 64 := by
  exact ⟨_, rfl, by decide +kernel⟩

theorem replySealed_built : ∃ bytes,
    buildSealedWithHeaders clearEnv replySealed replyHeaders clearSigner replyDraws = .ok bytes ∧
    bytes.length < 2 ^ 64 := by
  have hcrit : critLabels (some replyClaims) none = [3, 15, -70001, -70002, -70003] := by
    rw [critLabels, noHeaders_crit]
    exact sortLabels_of_ordered (by decide)
  have houter : outerCrit (some replyHeaders) = some [-70006, -70007, -70010] := by
    rw [outerCrit, replyHeaders_crit]
    rfl
  simp only [buildSealedWithHeaders, buildSealedInner, sealedOuterProtected,
    encodeSign1ProtectedSealedOuterWithHeaders, buildEncryptCore, encodeEncryptProtected,
    writeClaimsCapableTail, SealParams.core, replySealed, hcrit, houter]
  exact ⟨_, rfl, by decide +kernel⟩

theorem replyClaims_admissible : replyClaims.Admissible clearEnv where
  issuedAt := by decide
  expiresAt := by decide
  responseSubject := nofun
  responseKey := nofun

theorem built_replies_decode :
    (∃ bytes m, buildSignedWithHeaders clearEnv replySigned replyHeaders clearSigner = .ok bytes ∧
      decodeSign1Strict clearEnv bytes .bare = .ok m ∧
      SignedAs clearEnv replySigned replyHeaders clearSigner m) ∧
    (∃ bytes ephemeral nonce outer embedded,
      buildSealedWithHeaders clearEnv replySealed replyHeaders clearSigner replyDraws = .ok bytes ∧
      decodeSign1Strict clearEnv bytes .sealedOuter = .ok outer ∧
      decodeEncryptStrict clearEnv outer.payload .required = .ok embedded ∧
      SealedAs clearEnv replySealed replyHeaders clearSigner ephemeral nonce outer embedded) ∧
    (∃ bytes ephemeral nonce m, buildEncrypted clearEnv replyEncrypted replyDraws = .ok bytes ∧
      decodeEncryptStrict clearEnv bytes .forbidden = .ok m ∧
      EncryptedAs clearEnv replyEncrypted.core ephemeral nonce m) := by
  obtain ⟨hsigned, -, hsealed, -, hencrypted⟩ := built_messages_decode clearEnv clearSigner
  obtain ⟨signedBytes, hsignedBuilt, hsignedFits⟩ := replySigned_built
  obtain ⟨sealedBytes, hsealedBuilt, hsealedFits⟩ := replySealed_built
  obtain ⟨encryptedBytes, hencryptedBuilt, hencryptedFits⟩ := replyEncrypted_built
  refine ⟨?_, ?_, ?_⟩
  · obtain ⟨m, hm⟩ := hsigned replySigned replyHeaders signedBytes
      (fun c hc => by cases hc; exact replyClaims_admissible) hsignedFits hsignedBuilt
    exact ⟨signedBytes, m, hsignedBuilt, hm⟩
  · obtain ⟨ephemeral, nonce, outer, embedded, -, hm⟩ := hsealed replySealed replyHeaders replyDraws
      sealedBytes replyClaims_admissible ⟨by decide, by decide⟩ hsealedFits hsealedBuilt
    exact ⟨sealedBytes, ephemeral, nonce, outer, embedded, hsealedBuilt, hm⟩
  · obtain ⟨ephemeral, nonce, m, -, hm⟩ := hencrypted replyEncrypted replyDraws encryptedBytes
      ⟨by decide, by decide⟩ hencryptedFits hencryptedBuilt
    exact ⟨encryptedBytes, ephemeral, nonce, m, hencryptedBuilt, hm⟩

end Basil.Cose
