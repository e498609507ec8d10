import Basil.CoseEncode

/-!
# The strict COSE decoder (`basil-cose/src/codec`)

A scan of the raw bytes first, then a walk over the exact shape of the profile, then the parsed
message is encoded again and compared with the input.
-/

namespace Basil.Cose

open Cbor Label Registered

inductive DecodeError where
  | malformed
  | notTagged
  | wrongTag (expected actual : Nat)
  | indefiniteLength
  | nonMinimalEncoding
  | nonDeterministicEncoding
  | duplicateLabel
  | unknownLabel (label : Int)
  | textLabel
  | wrongType (label : Int)
  | missingHeader (label : Int)
  | unknownAlgorithm (alg : Int)
  | critMissing
  | critIncomplete (label : Int)
  | critUnexpected (label : Int)
  | claimsInUnprotected
  | unknownClaim (claim : Int)
  | fractionalTime
  | missingClaim (claim : Int)
  | recipientCount (count : Nat)
  | nestedRecipients
  | recipientCiphertextPresent
  | missingPayload
  | embeddedNotEncrypt
  | ephemeralKeyShape
  | invalidLength (label : Int) (expected actual : Nat)
  | identifier (error : ProfileError)
  | responseKeyIdMismatch
  deriving DecidableEq

def DecodeError.display : DecodeError → String
  | malformed => "malformed CBOR input"
  | notTagged => "top-level item is not tagged"
  | wrongTag expected actual =>
      "wrong COSE tag: expected " ++ toString expected ++ ", got " ++ toString actual
  | indefiniteLength => "indefinite-length item"
  | nonMinimalEncoding => "non-minimal integer encoding"
  | nonDeterministicEncoding => "non-deterministic encoding"
  | duplicateLabel => "duplicate map label"
  | unknownLabel label => "unknown label " ++ toString label
  | textLabel => "text label outside the integer-labelled profile"
  | wrongType label => "wrong CBOR type for label " ++ toString label
  | missingHeader label => "missing required header " ++ toString label
  | unknownAlgorithm alg => "algorithm " ++ toString alg ++ " outside the profile"
  | critMissing => "missing crit header"
  | critIncomplete label => "label " ++ toString label ++ " not listed in crit"
  | critUnexpected label => "unexpected crit entry " ++ toString label
  | claimsInUnprotected => "claims in unprotected header"
  | unknownClaim claim => "unknown CWT claim " ++ toString claim
  | fractionalTime => "fractional CWT timestamp"
  | missingClaim claim => "missing required CWT claim " ++ toString claim
  | recipientCount count => "expected exactly one recipient, got " ++ toString count
  | nestedRecipients => "nested recipients are not in the profile"
  | recipientCiphertextPresent => "recipient ciphertext must be nil for direct key agreement"
  | missingPayload => "payload is absent"
  | embeddedNotEncrypt => "sealed payload is not a tagged COSE_Encrypt"
  | ephemeralKeyShape => "ephemeral key is not the profile OKP/X25519 shape"
  | invalidLength label expected actual =>
      "field " ++ toString label ++ " must be " ++ toString expected ++ " bytes, got " ++ toString actual
  | identifier error => "invalid identifier: " ++ error.display
  | responseKeyIdMismatch => "response key id does not match response public key thumbprint"

/-! ### The scan of the raw bytes -/

namespace Precheck

def maxDepth : Nat := 32

def wideArgument (width minimum : Nat) (rest : Bytes) : Except DecodeError (Nat × Bytes) := do
  let (value, rest) ← orErr (number width rest) .malformed
  ensure (minimum ≤ value) .nonMinimalEncoding
  return (value, rest)

def readHead : Bytes → Except DecodeError (Nat × Bytes)
  | [] => .error .malformed
  | initial :: rest =>
      let simple := majorOf initial = 7
      if infoOf initial ≤ 23 then .ok (infoOf initial, rest)
      else if infoOf initial = 24 then wideArgument 1 (if simple then 32 else 24) rest
      else if infoOf initial = 25 then wideArgument 2 (if simple then 0 else 256) rest
      else if infoOf initial = 26 then wideArgument 4 (if simple then 0 else 65536) rest
      else if infoOf initial = 27 then wideArgument 8 (if simple then 0 else 4294967296) rest
      else if infoOf initial ≤ 30 then .error .malformed
      else .error .indefiniteLength

def scanMany (item : Bytes → Except DecodeError Bytes) : Nat → Bytes → Except DecodeError Bytes
  | 0, input => .ok input
  | n + 1, input => item input >>= scanMany item n

/-- What follows a head: nothing, the bytes of a string, or items one level deeper. -/
def scanContent (item : Bytes → Except DecodeError Bytes) (major arg : Nat) (next : Bytes) :
    Except DecodeError Bytes :=
  match major with
  | 0 => .ok next
  | 1 => .ok next
  | 7 => .ok next
  | 2 => do
      ensure (arg ≤ next.length) .malformed
      return next.drop arg
  | 3 => do
      ensure (arg ≤ next.length) .malformed
      return next.drop arg
  | 4 => scanMany item arg next
  | 5 => do
      ensure (arg * 2 ≤ u64Max) .malformed
      scanMany item (arg * 2) next
  | _ => item next

/-- The input after the item at its start; `levels` is how many more levels may be entered. -/
def scanItem : Nat → Bytes → Except DecodeError Bytes
  | 0, _ => .error .malformed
  | _ + 1, [] => .error .malformed
  | levels + 1, initial :: rest => do
      ensure (infoOf initial ≠ 31)
        (if 2 ≤ majorOf initial ∧ majorOf initial ≤ 5 then .indefiniteLength else .malformed)
      let (arg, next) ← readHead (initial :: rest)
      scanContent (scanItem levels) (majorOf initial) arg next

def scan (bytes : Bytes) : Except DecodeError (Option Nat) := do
  let initial ← orErr bytes.head? .malformed
  let topTag ← if majorOf initial = 6 then (do
      let (tag, _) ← readHead bytes
      return some tag) else .ok none
  let rest ← scanItem (maxDepth + 1) bytes
  ensure (rest = []) .malformed
  return topTag

end Precheck

/-! ### Typed reads -/

abbrev Decoder := Reader UInt8 DecodeError

def prim {α : Type} (read : Bytes → Option (α × Bytes)) : Decoder α :=
  Proc.ofFun fun input =>
    match read input with
    | some (a, rest) => (.ok a, rest)
    | none => (.error .malformed, input)

def dt : Decoder Kind := Proc.ofFun fun input => (orErr (datatype input) .malformed, input)

def typed {α : Type} (check : Kind → Except DecodeError Unit) (read : Bytes → Option (α × Bytes)) :
    Decoder α := do
  let t ← dt
  Proc.check (check t)
  prim read

def readLabel : Decoder Int :=
  typed (fun t => do
    ensure (t ≠ .string ∧ t ≠ .stringIndef) .textLabel
    ensure (t = .int) .malformed) readI64

def readBytes (label : Int) : Decoder Bytes :=
  typed (fun t => ensure (t = .bytes) (.wrongType label)) readBstr

def readStr (label : Int) : Decoder String :=
  typed (fun t => ensure (t = .string) (.wrongType label)) readTstr

def readInt (label : Int) : Decoder Int :=
  typed (fun t => ensure (t = .int) (.wrongType label)) readI64

def readTime (label : Int) : Decoder Int :=
  typed (fun t => do
    ensure (t ≠ .float) .fractionalTime
    ensure (t = .int) (.wrongType label)) readI64

def readMapLen : Decoder Nat := do
  let n ← typed (fun t => ensure (t = .map) .malformed) (readLength 5)
  Proc.check (orErr n .indefiniteLength)

def readArrayLen : Decoder Nat := do
  let n ← typed (fun t => ensure (t = .array) .malformed) (readLength 4)
  Proc.check (orErr n .indefiniteLength)

def readStringArray (label : Int) : Decoder (List String) := do
  let n ← readArrayLen
  readMany (readStr label) n

def readPart : Decoder Bytes := typed (fun t => ensure (t = .bytes) .malformed) readBstr

def readPayload : Decoder Bytes :=
  typed (fun t => do
    ensure (t ≠ .null) .missingPayload
    ensure (t = .bytes) .malformed) readBstr

def validated {α : Type} (x : Except ProfileError α) : Decoder α := Proc.check (x.mapError .identifier)

def checkOrder (prev : Option Int) (current : Int) : Except DecodeError Unit :=
  match prev with
  | none => .ok ()
  | some p =>
      match compareKeys (canonicalSortKey p) (canonicalSortKey current) with
      | .lt => .ok ()
      | .eq => .error .duplicateLabel
      | .gt => .error .nonDeterministicEncoding

def readMap {σ : Type} (field : Int → σ → Decoder σ) (n : Nat) (init : σ) : Decoder σ :=
  readEntries readLabel checkOrder field n none init

/-! ### Claims -/

structure ClaimsParts where
  issuer : Option Subject := none
  audience : Option Subject := none
  expiresAt : Option Int := none
  issuedAt : Option Int := none
  messageId : Option MessageId := none
  inReplyTo : Option MessageId := none
  requestHash : Option (FixedBytes 32) := none
  senderKeyId : Option KeyId := none
  responseKeyId : Option KeyId := none
  responseSubject : Option String := none
  freshnessChallenge : Option (FixedBytes 32) := none
  responsePublicKeyCose : Option (FixedBytes 32) := none
  cwtPresent : Bool := false
  basilPresent : Bool := false

variable (env : CoseEnv)

def ClaimsParts.intoClaims (parts : ClaimsParts) : Except DecodeError (Option Claims) :=
  if parts.cwtPresent = false then do
    ensure (parts.basilPresent = false) (.missingHeader hdrCwtClaims)
    return none
  else do
    let issuedAt ← orErr parts.issuedAt (.missingClaim cwtIat)
    let messageId ← orErr parts.messageId (.missingClaim cwtCti)
    let claims : Claims := {
      issuer := parts.issuer
      audience := parts.audience
      expiresAt := parts.expiresAt
      issuedAt
      messageId
      senderKeyId := parts.senderKeyId
      responseKeyId := parts.responseKeyId
      responseSubject := parts.responseSubject
      inReplyTo := parts.inReplyTo
      requestHash := parts.requestHash
      freshnessChallenge := parts.freshnessChallenge
      responsePublicKeyCose := parts.responsePublicKeyCose }
    ensure (responseKeyBindingMatches env claims = true) .responseKeyIdMismatch
    return some claims

def cwtField (key : Int) (parts : ClaimsParts) : Decoder ClaimsParts :=
  if key = cwtIss then do
    let issuer ← validated (Subject.new (← readStr key))
    return { parts with issuer := some issuer }
  else if key = cwtAud then do
    let audience ← validated (Subject.new (← readStr key))
    return { parts with audience := some audience }
  else if key = cwtExp then do
    let exp ← readTime key
    return { parts with expiresAt := some exp }
  else if key = cwtIat then do
    let iat ← readTime key
    return { parts with issuedAt := some iat }
  else if key = cwtCti then do
    let id ← validated (MessageId.fromBytes (← readBytes key))
    return { parts with messageId := some id }
  else Proc.fail (.unknownClaim key)

def parseCwtMap (parts : ClaimsParts) : Decoder ClaimsParts := do
  let n ← readMapLen
  let parts ← readMap cwtField n parts
  return { parts with cwtPresent := true }

def readFixed (n : Nat) (label : Int) : Decoder (FixedBytes n) := do
  let raw ← readBytes label
  Proc.check (orErr (FixedBytes.ofBytes? n raw) (.invalidLength label n raw.length))

def parseBasilLabel (l : Int) (parts : ClaimsParts) : Decoder (Option ClaimsParts) :=
  let parts := { parts with basilPresent := true }
  if l = inReplyTo.code then do
    let id ← validated (MessageId.fromBytes (← readBytes l))
    return some { parts with inReplyTo := some id }
  else if l = requestHash.code then do
    let hash ← readFixed 32 l
    return some { parts with requestHash := some hash }
  else if l = senderKeyId.code then do
    let id ← validated (keyIdFromBytes (← readBytes l))
    return some { parts with senderKeyId := some id }
  else if l = responseKeyId.code then do
    let id ← validated (keyIdFromBytes (textBytes (← readStr l)))
    return some { parts with responseKeyId := some id }
  else if l = responseSubject.code then do
    let subject ← validated (responseSubjectNew (← readStr l))
    return some { parts with responseSubject := some subject }
  else if l = freshnessChallenge.code then do
    let challenge ← readFixed 32 l
    return some { parts with freshnessChallenge := some challenge }
  else if l = responsePublicKeyCose.code then do
    let key ← validated (ResponseKey.fromCoseKeyBytes env (← readBytes l))
    return some { parts with responsePublicKeyCose := some key }
  else pure none

/-! ### Protected headers -/

def parseCrit : Decoder (List Int) := do
  let n ← readArrayLen
  Proc.check (ensure (n ≠ 0) (.wrongType hdrCrit))
  readMany readLabel n

/-- The diagnosis of a wrong list: a label too many, one too few, or the order. -/
def checkCrit (actual : Option (List Int)) (expected : List Int) : Except DecodeError Unit :=
  match actual with
  | none => .error .critMissing
  | some actual =>
      if actual = expected then .ok ()
      else match actual.find? (· ∉ expected) with
        | some l => .error (.critUnexpected l)
        | none =>
            match expected.find? (· ∉ actual) with
            | some l => .error (.critIncomplete l)
            | none => .error .nonDeterministicEncoding

structure HeaderParts where
  alg : Option Int := none
  crit : Option (List Int) := none
  contentType : Option ContentType := none
  kid : Option KeyId := none
  parts : ClaimsParts := {}
  protectedHeaders : ProtectedHeaders := ⟨[], none, none⟩

structure ClaimsCapableHeader where
  alg : Int
  crit : Option (List Int)
  contentType : Option ContentType
  kid : Option KeyId
  claims : Option Claims
  protectedHeaders : ProtectedHeaders

def readAlg (h : HeaderParts) (l : Int) : Decoder HeaderParts := do
  let alg ← readInt l
  return { h with alg := some alg }

def readCrit (h : HeaderParts) : Decoder HeaderParts := do
  let crit ← parseCrit
  return { h with crit := some crit }

def readKid (h : HeaderParts) (l : Int) : Decoder HeaderParts := do
  let kid ← validated (keyIdFromBytes (← readBytes l))
  return { h with kid := some kid }

def readJwtChain (h : HeaderParts) (l : Int) : Decoder HeaderParts := do
  let jwts ← readStringArray l
  return { h with protectedHeaders := { h.protectedHeaders with signerCertificatesJwt := jwts } }

def readSignerKey (h : HeaderParts) (l : Int) : Decoder HeaderParts := do
  let key ← readBytes l
  return { h with protectedHeaders := { h.protectedHeaders with signerPublicKeyCose := some key } }

def readTargetKeyId (h : HeaderParts) (l : Int) : Decoder HeaderParts := do
  let id ← validated (keyIdFromBytes (← readBytes l))
  return { h with protectedHeaders := { h.protectedHeaders with operationTargetKeyId := some id } }

/-- The entries of a header that may carry claims. `allowKid` is the signed header; without it the
key id and the protected headers are unknown labels. -/
def claimsCapableField (allowKid : Bool) (l : Int) (h : HeaderParts) : Decoder HeaderParts :=
  if l = hdrAlg then readAlg h l
  else if l = hdrCrit then readCrit h
  else if l = hdrContentType then do
    let contentType ← validated (ContentType.new (← readStr l))
    return { h with contentType := some contentType }
  else if l = hdrKid ∧ allowKid = true then readKid h l
  else if l = hdrCwtClaims then do
    let parts ← parseCwtMap h.parts
    return { h with parts }
  else if l = signerCertificatesJwt.code ∧ allowKid = true then readJwtChain h l
  else if l = signerPublicKeyCose.code ∧ allowKid = true then readSignerKey h l
  else if l = operationTargetKeyId.code ∧ allowKid = true then readTargetKeyId h l
  else do
    match ← parseBasilLabel env l h.parts with
    | some parts => return { h with parts }
    | none => Proc.fail (.unknownLabel l)

def parseHeaderMap {σ : Type} (field : Int → σ → Decoder σ) (init : σ) (bytes : Bytes) :
    Except DecodeError σ := do
  ensure (bytes ≠ []) (.missingHeader hdrAlg)
  let _ ← Precheck.scan bytes
  ((do
    let n ← readMapLen
    readMap field n init : Decoder σ).exec bytes).1

def parseClaimsCapableHeader (bytes : Bytes) (allowKid : Bool) :
    Except DecodeError ClaimsCapableHeader := do
  let h ← parseHeaderMap (claimsCapableField env allowKid) {} bytes
  let alg ← orErr h.alg (.missingHeader hdrAlg)
  let claims ← h.parts.intoClaims env
  ensure (allowKid = false ∨ claims.bind Claims.responsePublicKeyCose = none)
    (.unknownLabel responsePublicKeyCose.code)
  return ⟨alg, h.crit, h.contentType, h.kid, claims, h.protectedHeaders⟩

inductive ClaimsExpectation where
  | required
  | forbidden
  | optional
  deriving DecidableEq

def finishClaimsCapable (h : ClaimsCapableHeader) (expectation : ClaimsExpectation) :
    Except DecodeError Unit := do
  ensure (h.contentType ≠ none) (.missingHeader hdrContentType)
  ensure (¬ (expectation = .required ∧ h.claims = none)) (.missingHeader hdrCwtClaims)
  ensure (¬ (expectation = .forbidden ∧ h.claims ≠ none)) (.unknownLabel hdrCwtClaims)
  checkCrit h.crit (critLabels h.claims (some h.protectedHeaders))

def sealedOuterField (l : Int) (h : HeaderParts) : Decoder HeaderParts :=
  if l = hdrAlg then readAlg h l
  else if l = hdrKid then readKid h l
  else if l = hdrCrit then readCrit h
  else if l = signerCertificatesJwt.code then readJwtChain h l
  else if l = signerPublicKeyCose.code then readSignerKey h l
  else if l = operationTargetKeyId.code then readTargetKeyId h l
  else Proc.fail (.unknownLabel l)

def parseSealedOuterProtected (bytes : Bytes) :
    Except DecodeError (SignatureAlgorithm × KeyId × ProtectedHeaders) := do
  let h ← parseHeaderMap sealedOuterField {} bytes
  let alg ← orErr h.alg (.missingHeader hdrAlg)
  let algorithm ← orErr (SignatureAlgorithm.fromCodepoint alg) (.unknownAlgorithm alg)
  let kid ← orErr h.kid (.missingHeader hdrKid)
  if h.protectedHeaders.isEmpty then
    ensure (h.crit = none) (.critIncomplete hdrCrit)
  else checkCrit h.crit (protectedHeaderCritLabels (some h.protectedHeaders))
  return (algorithm, kid, h.protectedHeaders)

structure RecipientParts where
  alg : Option Int := none
  crit : Option (List Int) := none
  parties : KdfParties := .anonymous

def recipientField (l : Int) (h : RecipientParts) : Decoder RecipientParts :=
  if l = hdrAlg then do
    let alg ← readInt l
    return { h with alg := some alg }
  else if l = hdrCrit then do
    let crit ← parseCrit
    return { h with crit := some crit }
  else if l = hdrPartyUIdentity then do
    let id ← validated (partyIdentityFromBytes (← readBytes l))
    return { h with parties := { h.parties with partyU := some id } }
  else if l = hdrPartyVIdentity then do
    let id ← validated (partyIdentityFromBytes (← readBytes l))
    return { h with parties := { h.parties with partyV := some id } }
  else Proc.fail (.unknownLabel l)

def parseRecipientProtected (bytes : Bytes) : Except DecodeError KdfParties := do
  let h ← parseHeaderMap recipientField {} bytes
  let alg ← orErr h.alg (.missingHeader hdrAlg)
  ensure (KeyAgreementAlgorithm.fromCodepoint alg ≠ none) (.unknownAlgorithm alg)
  if partyLabels h.parties = [] then
    match h.crit with
    | some crit => .error (.critUnexpected (crit.head?.getD hdrCrit))
    | none => .ok ()
  else checkCrit h.crit (partyLabels h.parties)
  return h.parties

/-! ### Unprotected headers -/

def claimLabels : List Int :=
  [hdrCwtClaims, inReplyTo.code, requestHash.code, senderKeyId.code,
    responseKeyId.code, responseSubject.code, freshnessChallenge.code,
    responsePublicKeyCose.code]

def unprotectedField {σ : Type} (onEntry : Int → σ → Decoder (Option σ)) (l : Int) (acc : σ) :
    Decoder σ := do
  Proc.check (ensure (l ∉ claimLabels) .claimsInUnprotected)
  match ← onEntry l acc with
  | some acc => return acc
  | none => Proc.fail (.unknownLabel l)

def parseUnprotected {σ : Type} (onEntry : Int → σ → Decoder (Option σ)) (init : σ) : Decoder σ := do
  let n ← readMapLen
  readMap (unprotectedField onEntry) n init

structure EphemeralParts where
  ktyOk : Bool := false
  crvOk : Bool := false
  x : Option (FixedBytes 32) := none

def ephemeralField (l : Int) (key : EphemeralParts) : Decoder EphemeralParts :=
  if l = 1 then do
    let kty ← readInt l
    return { key with ktyOk := kty == 1 }
  else if l = -1 then do
    let crv ← readInt l
    return { key with crvOk := crv == 4 }
  else if l = -2 then do
    let raw ← readBytes l
    let x ← Proc.check (orErr (FixedBytes.ofBytes? 32 raw) .ephemeralKeyShape)
    return { key with x := some x }
  else Proc.fail .ephemeralKeyShape

def parseEphemeralKey : Decoder (FixedBytes 32) := do
  let n ← typed (fun t => ensure (t = .map) .ephemeralKeyShape) (readLength 5)
  let n ← Proc.check (orErr n .indefiniteLength)
  Proc.check (ensure (n = 3) .ephemeralKeyShape)
  let key ← readMap ephemeralField n {}
  Proc.check (ensure (key.ktyOk = true ∧ key.crvOk = true) .ephemeralKeyShape)
  Proc.check (orErr key.x .ephemeralKeyShape)

/-! ### Messages -/

def checkTag (topTag : Option Nat) (expected : Nat) : Except DecodeError Unit :=
  match topTag with
  | none => .error .notTagged
  | some tag => ensure (tag = expected) (.wrongTag expected tag)

inductive Sign1Layer where
  | bare
  | sealedOuter
  deriving DecidableEq

structure DecodedSign1 where
  protectedBytes : Bytes
  algorithm : SignatureAlgorithm
  kid : KeyId
  contentType : Option ContentType
  claims : Option Claims
  protectedHeaders : ProtectedHeaders
  payload : Bytes
  signature : Bytes

def readSign1 : Decoder (Bytes × Bytes × Bytes) := do
  let _ ← prim readTag
  let n ← readArrayLen
  Proc.check (ensure (n = 4) .malformed)
  let protectedBytes ← readPart
  parseUnprotected (fun _ _ => pure none) ()
  let payload ← readPayload
  let signature ← readPart
  Proc.check (ensure (signature ≠ []) .malformed)
  return (protectedBytes, payload, signature)

def decodeSign1Header (protectedBytes : Bytes) (layer : Sign1Layer) : Except DecodeError
    (SignatureAlgorithm × KeyId × Option ContentType × Option Claims × ProtectedHeaders × Bytes) :=
  match layer with
  | .bare => do
      let h ← parseClaimsCapableHeader env protectedBytes true
      let algorithm ← orErr (SignatureAlgorithm.fromCodepoint h.alg) (.unknownAlgorithm h.alg)
      finishClaimsCapable h .optional
      let kid ← orErr h.kid (.missingHeader hdrKid)
      let contentType ← orErr h.contentType (.missingHeader hdrContentType)
      let rebuilt ← (encodeSign1ProtectedBareWithHeaders env algorithm kid contentType h.claims
        (some h.protectedHeaders)).mapError fun _ => .nonDeterministicEncoding
      return (algorithm, kid, some contentType, h.claims, h.protectedHeaders, rebuilt)
  | .sealedOuter => do
      let (algorithm, kid, headers) ← parseSealedOuterProtected protectedBytes
      return (algorithm, kid, none, none, headers,
        encodeSign1ProtectedSealedOuterWithHeaders algorithm kid (some headers))

def decodeSign1Strict (bytes : Bytes) (layer : Sign1Layer) : Except DecodeError DecodedSign1 := do
  let topTag ← Precheck.scan bytes
  checkTag topTag tagSign1
  let (protectedBytes, payload, signature) ← (readSign1.exec bytes).1
  let (algorithm, kid, contentType, claims, headers, rebuilt) ←
    decodeSign1Header env protectedBytes layer
  ensure (assembleSign1 rebuilt payload signature = bytes) .nonDeterministicEncoding
  return ⟨protectedBytes, algorithm, kid, contentType, claims, headers, payload, signature⟩

structure DecodedEncrypt where
  protectedBytes : Bytes
  contentAlgorithm : ContentAlgorithm
  contentType : ContentType
  claims : Option Claims
  iv : FixedBytes 12
  ciphertext : Bytes
  recipientProtected : Bytes
  recipientKid : KeyId
  ephemeralX : FixedBytes 32
  parties : KdfParties

def ivEntry (l : Int) (_ : Option (FixedBytes 12)) : Decoder (Option (Option (FixedBytes 12))) :=
  if l ≠ hdrIv then pure none
  else do
    let iv ← readFixed 12 l
    return some (some iv)

def recipientEntry (l : Int) (acc : Option KeyId × Option (FixedBytes 32)) :
    Decoder (Option (Option KeyId × Option (FixedBytes 32))) :=
  if l = hdrKid then do
    let kid ← validated (keyIdFromBytes (← readBytes l))
    return some (some kid, acc.2)
  else if l = hdrEphemeralKey then do
    let x ← parseEphemeralKey
    return some (acc.1, some x)
  else pure none

def readRecipient : Decoder (Bytes × KeyId × FixedBytes 32) := do
  let count ← readArrayLen
  Proc.check (ensure (count = 1) (.recipientCount count))
  let length ← readArrayLen
  Proc.check (ensure (length ≠ 4) .nestedRecipients)
  Proc.check (ensure (length = 3) .malformed)
  let recipientProtected ← readPart
  let (kid, x) ← parseUnprotected recipientEntry (none, none)
  let kid ← Proc.check (orErr kid (.missingHeader hdrKid))
  let x ← Proc.check (orErr x (.missingHeader hdrEphemeralKey))
  typed (fun t => ensure (t = .null) .recipientCiphertextPresent) readNull
  return (recipientProtected, kid, x)

def readEncrypt : Decoder EncryptAssembly := do
  let _ ← prim readTag
  let n ← readArrayLen
  Proc.check (ensure (n = 4) .malformed)
  let protectedBytes ← readPart
  let iv ← parseUnprotected ivEntry none
  let iv ← Proc.check (orErr iv (.missingHeader hdrIv))
  let ciphertext ← readPayload
  let (recipientProtected, kid, x) ← readRecipient
  return ⟨protectedBytes, iv, ciphertext, recipientProtected, kid, x⟩

def decodeEncryptStrict (bytes : Bytes) (expectation : ClaimsExpectation) :
    Except DecodeError DecodedEncrypt := do
  let topTag ← Precheck.scan bytes
  checkTag topTag tagEncrypt
  let a ← (readEncrypt.exec bytes).1
  let h ← parseClaimsCapableHeader env a.protectedBytes false
  let contentAlgorithm ← orErr (ContentAlgorithm.fromCodepoint h.alg) (.unknownAlgorithm h.alg)
  finishClaimsCapable h expectation
  let contentType ← orErr h.contentType (.missingHeader hdrContentType)
  let parties ← parseRecipientProtected a.recipientProtected
  let rebuilt ← (encodeEncryptProtected env contentAlgorithm contentType h.claims).mapError
    fun _ => DecodeError.nonDeterministicEncoding
  ensure (assembleEncrypt { a with
    protectedBytes := rebuilt
    recipientProtected := encodeRecipientProtected parties } = bytes) .nonDeterministicEncoding
  return ⟨a.protectedBytes, contentAlgorithm, contentType, h.claims, a.iv, a.ciphertext,
    a.recipientProtected, a.recipientKid, a.ephemeralX, parties⟩

end Basil.Cose
