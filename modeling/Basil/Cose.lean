import Basil.Lib.Cbor
import Basil.Lib.Text
import Mathlib.Data.FinEnum

/-!
# Sealed COSE messages (`basil-cose`)

The claims are checked before anything is decrypted. The CBOR wire form and the hash are
parameters.
-/

namespace Basil.Cose

structure KeyId where
  bytes : Bytes
  wellFormed : bytes ≠ [] ∧ bytes.length ≤ 128
  deriving DecidableEq

def KeyId.fromBytes (bytes : Bytes) : Option KeyId :=
  if h : bytes ≠ [] ∧ bytes.length ≤ 128 then some ⟨bytes, h⟩ else none

def KeyId.fromText (id : String) : Option KeyId := fromBytes (Cbor.textBytes id)

def KeyId.asCatalogName (id : KeyId) : Option String := String.fromUTF8? ⟨id.bytes.toArray⟩

theorem KeyId.asCatalogName_fromText {id : String} {keyId : KeyId} (h : fromText id = some keyId) :
    keyId.asCatalogName = some id := by
  simp only [fromText, fromBytes, Option.dite_none_right_eq_some, Option.some.injEq] at h
  obtain ⟨_, rfl⟩ := h
  exact dif_pos id.isValidUTF8

abbrev MessageId := { bytes : Bytes // bytes ≠ [] ∧ bytes.length ≤ 64 }

def MessageId.single (b : UInt8) : MessageId := ⟨[b], by simp⟩

abbrev Subject := { text : String // text ≠ "" }

inductive SignatureAlgorithm where
  | edDsa
  | es256
  deriving DecidableEq

inductive MessageRole where
  | request
  | response
  | peer
  deriving DecidableEq

structure Claims where
  issuer : Option Subject
  audience : Option Subject
  expiresAt : Option Int
  issuedAt : Int
  messageId : MessageId
  senderKeyId : Option KeyId
  responseKeyId : Option KeyId
  responseSubject : Option String
  inReplyTo : Option MessageId
  requestHash : Option (FixedBytes 32)
  freshnessChallenge : Option (FixedBytes 32)
  responsePublicKeyCose : Option (FixedBytes 32)
  deriving DecidableEq

structure ProtectedHeaders where
  signerCertificatesJwt : List String
  signerPublicKeyCose : Option Bytes
  operationTargetKeyId : Option KeyId
  deriving DecidableEq

structure ValidationParams where
  now : Int
  maxClockSkew : Nat
  maxTtl : Nat
  defaultTtl : Nat
  allowedAudiences : List Subject
  role : MessageRole

/-- The private label registry. -/
inductive Label where
  | inReplyTo
  | requestHash
  | senderKeyId
  | responseKeyId
  | responseSubject
  | signerCertificatesJwt
  | signerPublicKeyCose
  | freshnessChallenge
  | responsePublicKeyCose
  | operationTargetKeyId
  deriving DecidableEq

def Label.code : Label → Int
  | inReplyTo => -70001
  | requestHash => -70002
  | senderKeyId => -70003
  | responseKeyId => -70004
  | responseSubject => -70005
  | signerCertificatesJwt => -70006
  | signerPublicKeyCose => -70007
  | freshnessChallenge => -70008
  | responsePublicKeyCose => -70009
  | operationTargetKeyId => -70010

/-! The registered header parameters and claim keys. -/

namespace Registered

def hdrAlg : Int := 1
def hdrCrit : Int := 2
def hdrContentType : Int := 3
def hdrKid : Int := 4
def hdrIv : Int := 5
def hdrCwtClaims : Int := 15
def hdrEphemeralKey : Int := -1
def hdrPartyUIdentity : Int := -21
def hdrPartyVIdentity : Int := -24
def cwtIss : Int := 1
def cwtAud : Int := 3
def cwtExp : Int := 4
def cwtIat : Int := 6
def cwtCti : Int := 7

end Registered

inductive ClaimsError where
  | issuedInFuture
  | nonPositiveTtl
  | ttlTooLong (seconds : Int)
  | expired
  | audienceRejected
  | responseKeyIdMismatch
  | missingClaim (label : Label)
  | forbiddenClaim (label : Label)
  deriving DecidableEq

inductive VerifyError where
  | decode (detail : String)
  | signatureInvalid
  | unknownKeyId
  | algorithmMismatch
  | senderKeyMismatch
  | claims (error : ClaimsError)
  | provider (message : String)
  deriving DecidableEq

def ClaimsError.display : ClaimsError → String
  | issuedInFuture => "issued-at is in the future beyond allowed skew"
  | expired => "message expired"
  | ttlTooLong seconds => "explicit ttl of " ++ toString seconds ++ "s exceeds the maximum"
  | nonPositiveTtl => "expiry is not after issued-at"
  | audienceRejected => "audience not allowed"
  | missingClaim label => "role requires claim " ++ toString label.code
  | forbiddenClaim label => "role forbids claim " ++ toString label.code
  | responseKeyIdMismatch => "response key id does not match response public key thumbprint"

def VerifyError.display : VerifyError → String
  | decode detail => "strict decode failed: " ++ detail
  | signatureInvalid => "signature verification failed"
  | unknownKeyId => "unknown signing key id"
  | algorithmMismatch => "algorithm does not match the pinned key"
  | senderKeyMismatch => "sender key id claim does not match the outer kid"
  | claims error => "claim validation failed: " ++ error.display
  | provider message => "verification provider failed: " ++ message

structure KdfParties where
  partyU : Option Bytes
  partyV : Option Bytes
  deriving DecidableEq

def KdfParties.anonymous : KdfParties := ⟨none, none⟩

structure OuterMessage where
  kid : KeyId
  algorithm : SignatureAlgorithm
  protectedHeaders : ProtectedHeaders
  protectedBytes : Bytes
  payload : Bytes
  signature : Bytes

structure EmbeddedMessage where
  claims : Option Claims
  contentType : String
  recipientKid : KeyId
  parties : KdfParties

structure Codec where
  decodeSign1 : Bytes → Except String OuterMessage
  decodeEncrypt : Bytes → Except String EmbeddedMessage
  sigStructure : Bytes → Bytes → Bytes → Bytes
  responseThumbprint : FixedBytes 32 → String

variable (codec : Codec)

def secsI64 (d : Nat) : Int := min (d : Int) i64Max

namespace Claims

def effectiveExpiry (claims : Claims) (params : ValidationParams) : Except ClaimsError Int :=
  match claims.expiresAt with
  | some exp => do
      let span := satSubI64 exp claims.issuedAt
      ensure (0 < span) .nonPositiveTtl
      ensure (span ≤ secsI64 params.maxTtl) (.ttlTooLong span)
      return exp
  | none => .ok (satAddI64 claims.issuedAt (secsI64 params.defaultTtl))

def require (present : Bool) (label : Label) : Except ClaimsError Unit :=
  ensure (present = true) (.missingClaim label)

def forbid (present : Bool) (label : Label) : Except ClaimsError Unit :=
  ensure (present = false) (.forbiddenClaim label)

def responseKeyMatches (claims : Claims) : Bool :=
  match claims.responseKeyId, claims.responsePublicKeyCose with
  | some keyId, some key => keyId.bytes == Cbor.textBytes (codec.responseThumbprint key)
  | _, _ => true

def validateRole (claims : Claims) (role : MessageRole) : Except ClaimsError Unit := do
  ensure (claims.responseKeyMatches codec = true) .responseKeyIdMismatch
  match role with
  | .request => do
      require claims.senderKeyId.isSome .senderKeyId
      require claims.responseKeyId.isSome .responseKeyId
      forbid claims.inReplyTo.isSome .inReplyTo
      forbid claims.requestHash.isSome .requestHash
  | .response => do
      require claims.inReplyTo.isSome .inReplyTo
      require claims.requestHash.isSome .requestHash
      forbid claims.responseKeyId.isSome .responseKeyId
      forbid claims.responseSubject.isSome .responseSubject
      forbid claims.freshnessChallenge.isSome .freshnessChallenge
      forbid claims.responsePublicKeyCose.isSome .responsePublicKeyCose
  | .peer => do
      require claims.senderKeyId.isSome .senderKeyId
      forbid claims.inReplyTo.isSome .inReplyTo
      forbid claims.requestHash.isSome .requestHash
      forbid claims.responseKeyId.isSome .responseKeyId
      forbid claims.responseSubject.isSome .responseSubject
      forbid claims.freshnessChallenge.isSome .freshnessChallenge
      forbid claims.responsePublicKeyCose.isSome .responsePublicKeyCose

def validate (claims : Claims) (params : ValidationParams) : Except ClaimsError Unit := do
  let skew := secsI64 params.maxClockSkew
  ensure (claims.issuedAt ≤ satAddI64 params.now skew) .issuedInFuture
  let expiry ← claims.effectiveExpiry params
  ensure (params.now ≤ satAddI64 expiry skew) .expired
  ensure (params.allowedAudiences = [] ∨ ∀ aud ∈ claims.audience, aud ∈ params.allowedAudiences)
    .audienceRejected
  claims.validateRole codec params.role

end Claims

/-! ### Verification -/

abbrev Verifier (α : Type) :=
  KeyId → SignatureAlgorithm → ProtectedHeaders → Bytes → Bytes → Except VerifyError α

structure VerifiedSealed where
  claims : Claims
  contentType : String
  signerKeyId : KeyId
  protectedHeaders : ProtectedHeaders
  recipientKeyId : KeyId
  parties : KdfParties
  encryptBytes : Bytes

/-- `verify_sealed`: the signature before the claims, and the claims name its key. -/
def verifySealed {α : Type} (bytes : Bytes) (verifier : Verifier α) (signatureAad : Bytes)
    (params : ValidationParams) : Except VerifyError (VerifiedSealed × α) := do
  let outer ← (codec.decodeSign1 bytes).mapError .decode
  let embedded ← (codec.decodeEncrypt outer.payload).mapError .decode
  ensure (outer.signature ≠ []) .signatureInvalid
  let verified ← verifier outer.kid outer.algorithm outer.protectedHeaders
    (codec.sigStructure outer.protectedBytes signatureAad outer.payload) outer.signature
  let claims ← orErr embedded.claims (.decode "missing required header 15")
  ensure (claims.senderKeyId = some outer.kid) .senderKeyMismatch
  (claims.validate codec params).mapError .claims
  return (⟨claims, embedded.contentType, outer.kid, outer.protectedHeaders, embedded.recipientKid,
    embedded.parties, outer.payload⟩, verified)

theorem verifySealed_ok {α : Type} {codec : Codec} {bytes signatureAad : Bytes}
    {verifier : Verifier α} {params : ValidationParams} {sealed : VerifiedSealed} {verified : α}
    (h : verifySealed codec bytes verifier signatureAad params = .ok (sealed, verified)) :
    ∃ outer embedded, codec.decodeSign1 bytes = .ok outer ∧
      codec.decodeEncrypt outer.payload = .ok embedded ∧ embedded.claims = some sealed.claims ∧
      sealed.protectedHeaders = outer.protectedHeaders ∧
      verifier outer.kid outer.algorithm outer.protectedHeaders
        (codec.sigStructure outer.protectedBytes signatureAad outer.payload) outer.signature = .ok verified ∧
      sealed.claims.senderKeyId = some outer.kid ∧
      sealed.claims.validate codec params = .ok () := by
  simp only [verifySealed, eq_ok] at h
  obtain ⟨outer, houter, embedded, hembedded, _, -, _, hverified, claims, hclaims, _,
    hsender, _, hvalidate, heq⟩ := h
  cases heq
  exact ⟨outer, embedded, houter, hembedded, hclaims, rfl, hverified, hsender, hvalidate⟩

end Basil.Cose
