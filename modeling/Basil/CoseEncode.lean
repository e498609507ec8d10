import Basil.Cose

/-!
# The COSE profile encoder (`basil-cose/src/codec`)

The curve, the hash, the key derivation and the ciphers are parameters.
-/

namespace Basil.Cose

open Cbor

inductive ContentAlgorithm where
  | a256Gcm
  | chaCha20Poly1305
  deriving DecidableEq

structure CoseEnv where
  x25519Public : FixedBytes 32 → FixedBytes 32
  diffieHellman : FixedBytes 32 → FixedBytes 32 → FixedBytes 32
  sha256 : Bytes → FixedBytes 32
  deriveCek : FixedBytes 32 → Bytes → Option (FixedBytes 32)
  aeadSeal : ContentAlgorithm → FixedBytes 32 → FixedBytes 12 → Bytes → Bytes → Option Bytes
  aeadOpen : ContentAlgorithm → FixedBytes 32 → FixedBytes 12 → Bytes → Bytes → Option Bytes

/-! ### Codepoints and labels -/

def SignatureAlgorithm.codepoint : SignatureAlgorithm → Int
  | .edDsa => -8
  | .es256 => -7

def SignatureAlgorithm.fromCodepoint (alg : Int) : Option SignatureAlgorithm :=
  if alg = -8 then some .edDsa else if alg = -7 then some .es256 else none

def ContentAlgorithm.codepoint : ContentAlgorithm → Int
  | .a256Gcm => 3
  | .chaCha20Poly1305 => 24

def ContentAlgorithm.fromCodepoint (alg : Int) : Option ContentAlgorithm :=
  if alg = 3 then some .a256Gcm else if alg = 24 then some .chaCha20Poly1305 else none

def ContentAlgorithm.keyLen (_ : ContentAlgorithm) : Nat := 32

inductive KeyAgreementAlgorithm where
  | ecdhEsHkdf256
  deriving DecidableEq

def KeyAgreementAlgorithm.codepoint : KeyAgreementAlgorithm → Int
  | .ecdhEsHkdf256 => -25

def KeyAgreementAlgorithm.fromCodepoint (alg : Int) : Option KeyAgreementAlgorithm :=
  if alg = -25 then some .ecdhEsHkdf256 else none

theorem SignatureAlgorithm.fromCodepoint_codepoint (alg : SignatureAlgorithm) :
    fromCodepoint alg.codepoint = some alg := by cases alg <;> rfl

theorem ContentAlgorithm.fromCodepoint_codepoint (alg : ContentAlgorithm) :
    fromCodepoint alg.codepoint = some alg := by cases alg <;> rfl

/-- Non-negative labels before negative ones, then by the encoded argument. -/
def canonicalSortKey (label : Int) : Nat × Nat :=
  if 0 ≤ label then (0, label.toNat) else (1, (-1 - label).toNat)

/-- The key on the machine word, where the complement is the encoded argument. -/
def canonicalSortKeyWord (label : Int64) : UInt8 × UInt64 :=
  if 0 ≤ label then (0, label.toUInt64) else (1, ~~~ label.toUInt64)

def compareKeys (a b : Nat × Nat) : Ordering := (compare a.1 b.1).then (compare a.2 b.2)

def sortLabels (labels : List Int) : List Int :=
  labels.mergeSort fun a b => (compareKeys (canonicalSortKey a) (canonicalSortKey b)).isLE

/-! ### Identifiers -/

inductive ProfileError where
  | keyIdLength (actual : Nat)
  | messageIdLength (actual : Nat)
  | emptySubject
  | contentTypeForm
  | emptyPartyIdentity
  | emptySignature
  | freshnessChallengeLength (actual : Nat)
  | responsePublicKeyCoseShape
  | responsePublicKeyHighBitAlias
  | responsePublicKeyNonContributory
  deriving DecidableEq

def ProfileError.display : ProfileError → String
  | keyIdLength actual => "key id must be 1..=128 bytes, got " ++ toString actual
  | messageIdLength actual => "message id must be 1..=64 bytes, got " ++ toString actual
  | emptySubject => "subject string must be non-empty"
  | contentTypeForm => "content type must be of type/subtype form without surrounding whitespace"
  | emptyPartyIdentity => "party identity must be non-empty when present"
  | emptySignature => "signature must be non-empty"
  | freshnessChallengeLength actual =>
      "freshness challenge must be exactly 32 bytes, got " ++ toString actual
  | responsePublicKeyCoseShape => "response public key is not the deterministic X25519 COSE_Key shape"
  | responsePublicKeyHighBitAlias => "response public key uses a noncanonical high-bit X25519 alias"
  | responsePublicKeyNonContributory => "response public key is non-contributory"

abbrev ContentType := { text : String // text ≠ "" ∧ Text.trim text = text ∧ text.toList.count '/' = 1 }

abbrev Signature := { bytes : Bytes // bytes ≠ [] }

def keyIdFromBytes (bytes : Bytes) : Except ProfileError KeyId :=
  orErr (KeyId.fromBytes bytes) (.keyIdLength bytes.length)

def MessageId.fromBytes (bytes : Bytes) : Except ProfileError MessageId :=
  if h : bytes ≠ [] ∧ bytes.length ≤ 64 then .ok ⟨bytes, h⟩ else .error (.messageIdLength bytes.length)

def Subject.new (text : String) : Except ProfileError Subject :=
  if h : text ≠ "" then .ok ⟨text, h⟩ else .error .emptySubject

def responseSubjectNew (text : String) : Except ProfileError String := do
  ensure (text ≠ "") .emptySubject
  return text

def ContentType.new (text : String) : Except ProfileError ContentType :=
  if h : text ≠ "" ∧ Text.trim text = text ∧ text.toList.count '/' = 1 then .ok ⟨text, h⟩
  else .error .contentTypeForm

def partyIdentityFromBytes (identity : Bytes) : Except ProfileError Bytes := do
  ensure (identity ≠ []) .emptyPartyIdentity
  return identity

/-! ### Response keys -/

variable (env : CoseEnv)

namespace ResponseKey

def coseKeyLead : Bytes := [0xa3, 0x01, 0x01, 0x20, 0x04, 0x21, 0x58, 0x20]

def probe : FixedBytes 32 := FixedBytes.fill 32 0x5a

def fromPublicBytes (key : FixedBytes 32) : Except ProfileError (FixedBytes 32) := do
  ensure (∀ last ∈ key.bytes.getLast?, last &&& 0x80 = 0) .responsePublicKeyHighBitAlias
  ensure (∃ b ∈ (env.diffieHellman probe key).bytes, b ≠ 0) .responsePublicKeyNonContributory
  return key

def fromCoseKeyBytes (bytes : Bytes) : Except ProfileError (FixedBytes 32) := do
  let key ← orErr (coseKeyLead.isPrefixOf? bytes) .responsePublicKeyCoseShape
  let key ← orErr (FixedBytes.ofBytes? 32 key) .responsePublicKeyCoseShape
  fromPublicBytes env key

def toCoseKeyBytes (key : FixedBytes 32) : Bytes := coseKeyLead ++ key.bytes

end ResponseKey

def base64urlChar (value : Nat) : Char :=
  if value ≤ 25 then Char.ofNat (65 + value)
  else if value ≤ 51 then Char.ofNat (97 + (value - 26))
  else if value ≤ 61 then Char.ofNat (48 + (value - 52))
  else if value = 62 then '-' else '_'

def base64urlChars : Bytes → List Char
  | a :: b :: c :: rest =>
      base64urlChar (a.toNat / 4) :: base64urlChar (a.toNat % 4 * 16 + b.toNat / 16) ::
        base64urlChar (b.toNat % 16 * 4 + c.toNat / 64) :: base64urlChar (c.toNat % 64) ::
        base64urlChars rest
  | [a, b] =>
      [base64urlChar (a.toNat / 4), base64urlChar (a.toNat % 4 * 16 + b.toNat / 16),
        base64urlChar (b.toNat % 16 * 4)]
  | [a] => [base64urlChar (a.toNat / 4), base64urlChar (a.toNat % 4 * 16)]
  | [] => []

def base64urlNoPad (bytes : Bytes) : String := String.ofList (base64urlChars bytes)

def thumbprint (key : FixedBytes 32) : String :=
  base64urlNoPad (env.sha256 (textBytes ("\x7b\"crv\":\"X25519\",\"kty\":\"OKP\",\"x\":\"" ++
    base64urlNoPad key.bytes ++ "\"\x7d"))).bytes

def responseKeyBindingMatches (claims : Claims) : Bool :=
  match claims.responseKeyId, claims.responsePublicKeyCose with
  | some keyId, some key => keyId.bytes == textBytes (thumbprint env key)
  | _, _ => true

/-! ### Protected headers -/

inductive CodecError where
  | codec
  deriving DecidableEq

def present {α : Type} (o : Option α) (label : Int) : List Int := if o.isSome then [label] else []

def basilLabels (claims : Claims) : List Int :=
  present claims.inReplyTo Label.inReplyTo.code ++
    present claims.requestHash Label.requestHash.code ++
    present claims.senderKeyId Label.senderKeyId.code ++
    present claims.responseKeyId Label.responseKeyId.code ++
    present claims.responseSubject Label.responseSubject.code ++
    present claims.freshnessChallenge Label.freshnessChallenge.code ++
    present claims.responsePublicKeyCose Label.responsePublicKeyCose.code

def jwtChain (headers : Option ProtectedHeaders) : Option (List String) :=
  headers.bind fun h => if h.signerCertificatesJwt = [] then none else some h.signerCertificatesJwt

def signerKey (headers : Option ProtectedHeaders) : Option Bytes :=
  headers.bind ProtectedHeaders.signerPublicKeyCose

def targetKeyId (headers : Option ProtectedHeaders) : Option KeyId :=
  headers.bind ProtectedHeaders.operationTargetKeyId

def protectedHeaderCritLabels (headers : Option ProtectedHeaders) : List Int :=
  sortLabels (present (jwtChain headers) Label.signerCertificatesJwt.code ++
    present (signerKey headers) Label.signerPublicKeyCose.code ++
    present (targetKeyId headers) Label.operationTargetKeyId.code)

def critLabels (claims : Option Claims) (headers : Option ProtectedHeaders) : List Int :=
  sortLabels ([Registered.hdrContentType] ++
    (match claims with
      | some c => Registered.hdrCwtClaims :: basilLabels c
      | none => []) ++
    protectedHeaderCritLabels headers)

def writeField {α : Type} (label : Int) (write : α → Bytes) (o : Option α) : Bytes :=
  match o with
  | some value => int label ++ write value
  | none => []

def writeLabels (labels : List Int) : Bytes := arrayHead labels.length ++ labels.flatMap int

def writeTexts (texts : List String) : Bytes := arrayHead texts.length ++ texts.flatMap tstr

def writeCwtMap (claims : Claims) : Bytes :=
  mapHead (2 + claims.issuer.isSome.toNat + claims.audience.isSome.toNat +
      claims.expiresAt.isSome.toNat) ++
    writeField Registered.cwtIss (fun issuer => tstr issuer.1) claims.issuer ++
    writeField Registered.cwtAud (fun audience => tstr audience.1) claims.audience ++
    writeField Registered.cwtExp int claims.expiresAt ++
    (int Registered.cwtIat ++ int claims.issuedAt) ++
    (int Registered.cwtCti ++ bstr claims.messageId.1)

def writeResponseKeyId (responseKeyId : Option KeyId) : Except CodecError Bytes :=
  match responseKeyId with
  | some keyId => do
      let name ← orErr keyId.asCatalogName .codec
      return int Label.responseKeyId.code ++ tstr name
  | none => .ok []

def writeClaims (claims : Option Claims) : Except CodecError Bytes :=
  match claims with
  | some c => do
      let responseKeyId ← writeResponseKeyId c.responseKeyId
      return int Registered.hdrCwtClaims ++ writeCwtMap c ++
        writeField Label.inReplyTo.code (fun id => bstr id.1) c.inReplyTo ++
        writeField Label.requestHash.code (fun hash => bstr hash.bytes) c.requestHash ++
        writeField Label.senderKeyId.code (fun id => bstr id.bytes) c.senderKeyId ++
        responseKeyId ++
        writeField Label.responseSubject.code tstr c.responseSubject
  | none => .ok []

def writeClaimsCapableTail (contentType : ContentType) (claims : Option Claims)
    (headers : Option ProtectedHeaders) (kid : Option KeyId) : Except CodecError Bytes := do
  let claimBytes ← writeClaims claims
  return (int Registered.hdrCrit ++ writeLabels (critLabels claims headers)) ++
    (int Registered.hdrContentType ++ tstr contentType.1) ++
    writeField Registered.hdrKid (fun id => bstr id.bytes) kid ++
    claimBytes ++
    writeField Label.signerCertificatesJwt.code writeTexts (jwtChain headers) ++
    writeField Label.signerPublicKeyCose.code bstr (signerKey headers) ++
    writeField Label.freshnessChallenge.code (fun challenge => bstr challenge.bytes)
      (claims.bind Claims.freshnessChallenge) ++
    writeField Label.responsePublicKeyCose.code (fun key => bstr (ResponseKey.toCoseKeyBytes key))
      (claims.bind Claims.responsePublicKeyCose) ++
    writeField Label.operationTargetKeyId.code (fun id => bstr id.bytes) (targetKeyId headers)

def claimsCapableTailLen (claims : Option Claims) (headers : Option ProtectedHeaders) : Nat :=
  2 + (match claims with
      | some c => 1 + (basilLabels c).length
      | none => 0) +
    (jwtChain headers).isSome.toNat + (signerKey headers).isSome.toNat +
    (targetKeyId headers).isSome.toNat

def encodeSign1ProtectedBareWithHeaders (algorithm : SignatureAlgorithm) (kid : KeyId)
    (contentType : ContentType) (claims : Option Claims) (headers : Option ProtectedHeaders) :
    Except CodecError Bytes := do
  ensure (∀ c ∈ claims, responseKeyBindingMatches env c = true) .codec
  let tail ← writeClaimsCapableTail contentType claims headers (some kid)
  return mapHead (2 + claimsCapableTailLen claims headers) ++
    (int Registered.hdrAlg ++ int algorithm.codepoint) ++ tail

def ProtectedHeaders.isEmpty (headers : ProtectedHeaders) : Bool :=
  headers.signerCertificatesJwt.isEmpty && headers.signerPublicKeyCose.isNone &&
    headers.operationTargetKeyId.isNone

def outerCrit (headers : Option ProtectedHeaders) : Option (List Int) :=
  if headers.any fun h => !h.isEmpty then some (protectedHeaderCritLabels headers) else none

def encodeSign1ProtectedSealedOuterWithHeaders (algorithm : SignatureAlgorithm) (kid : KeyId)
    (headers : Option ProtectedHeaders) : Bytes :=
  mapHead (2 + (outerCrit headers).isSome.toNat + (jwtChain headers).isSome.toNat +
      (signerKey headers).isSome.toNat + (targetKeyId headers).isSome.toNat) ++
    (int Registered.hdrAlg ++ int algorithm.codepoint) ++
    writeField Registered.hdrCrit writeLabels (outerCrit headers) ++
    (int Registered.hdrKid ++ bstr kid.bytes) ++
    writeField Label.signerCertificatesJwt.code writeTexts (jwtChain headers) ++
    writeField Label.signerPublicKeyCose.code bstr (signerKey headers) ++
    writeField Label.operationTargetKeyId.code (fun id => bstr id.bytes) (targetKeyId headers)

def encodeSign1ProtectedSealedOuter (algorithm : SignatureAlgorithm) (kid : KeyId) : Bytes :=
  encodeSign1ProtectedSealedOuterWithHeaders algorithm kid none

def encodeEncryptProtected (contentAlgorithm : ContentAlgorithm) (contentType : ContentType)
    (claims : Option Claims) : Except CodecError Bytes := do
  ensure (∀ c ∈ claims, responseKeyBindingMatches env c = true) .codec
  let tail ← writeClaimsCapableTail contentType claims none none
  return mapHead (1 + claimsCapableTailLen claims none) ++
    (int Registered.hdrAlg ++ int contentAlgorithm.codepoint) ++ tail

def partyLabels (parties : KdfParties) : List Int :=
  present parties.partyU Registered.hdrPartyUIdentity ++ present parties.partyV Registered.hdrPartyVIdentity

def partyCrit (parties : KdfParties) : Option (List Int) :=
  if partyLabels parties = [] then none else some (partyLabels parties)

def encodeRecipientProtected (parties : KdfParties) : Bytes :=
  mapHead (1 + (partyCrit parties).isSome.toNat + (partyLabels parties).length) ++
    (int Registered.hdrAlg ++ int KeyAgreementAlgorithm.ecdhEsHkdf256.codepoint) ++
    writeField Registered.hdrCrit writeLabels (partyCrit parties) ++
    writeField Registered.hdrPartyUIdentity bstr parties.partyU ++
    writeField Registered.hdrPartyVIdentity bstr parties.partyV

/-! ### Messages -/

def tagSign1 : Nat := 18
def tagEncrypt : Nat := 96

def assembleSign1 (protectedBytes payload signature : Bytes) : Bytes :=
  tagHead tagSign1 ++ arrayHead 4 ++ bstr protectedBytes ++ mapHead 0 ++ bstr payload ++ bstr signature

structure EncryptAssembly where
  protectedBytes : Bytes
  iv : FixedBytes 12
  ciphertext : Bytes
  recipientProtected : Bytes
  recipientKid : KeyId
  ephemeralX : FixedBytes 32

def writeEphemeralKey (x : FixedBytes 32) : Bytes :=
  mapHead 3 ++ (int 1 ++ int 1) ++ (int (-1) ++ int 4) ++ (int (-2) ++ bstr x.bytes)

def writeRecipient (recipientProtected : Bytes) (kid : KeyId) (x : FixedBytes 32) : Bytes :=
  arrayHead 3 ++ bstr recipientProtected ++
    (mapHead 2 ++ (int Registered.hdrKid ++ bstr kid.bytes) ++
      (int Registered.hdrEphemeralKey ++ writeEphemeralKey x)) ++ null

def assembleEncrypt (a : EncryptAssembly) : Bytes :=
  tagHead tagEncrypt ++ arrayHead 4 ++ bstr a.protectedBytes ++
    (mapHead 1 ++ (int Registered.hdrIv ++ bstr a.iv.bytes)) ++ bstr a.ciphertext ++
    (arrayHead 1 ++ writeRecipient a.recipientProtected a.recipientKid a.ephemeralX)

def sigStructure (protectedBytes externalAad payload : Bytes) : Bytes :=
  arrayHead 4 ++ tstr "Signature1" ++ bstr protectedBytes ++ bstr externalAad ++ bstr payload

def encStructure (protectedBytes externalAad : Bytes) : Bytes :=
  arrayHead 3 ++ tstr "Encrypt" ++ bstr protectedBytes ++ bstr externalAad

def writeParty (identity : Option Bytes) : Bytes :=
  arrayHead 3 ++ (match identity with
    | some id => bstr id
    | none => null) ++ null ++ null

def kdfContext (contentAlgorithm : ContentAlgorithm) (parties : KdfParties)
    (recipientProtected : Bytes) : Bytes :=
  arrayHead 4 ++ int contentAlgorithm.codepoint ++ writeParty parties.partyU ++
    writeParty parties.partyV ++
    (arrayHead 2 ++ head 0 (8 * contentAlgorithm.keyLen) ++ bstr recipientProtected)

end Basil.Cose
