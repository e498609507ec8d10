import Basil.Lib.Bytes
import Basil.Lib.Table
import Basil.Lib.Text
import Mathlib.Data.String.Basic

/-!
# JSON claims and compact JWTs

The `jsonwebtoken` crate and the base64url and JSON codecs are parameters, with the behaviour the
broker relies on as fields.
-/

namespace Basil.Jwt

inductive JsonValue where
  | null
  | bool (b : Bool)
  | num (n : Int)
  | str (s : String)
  | arr (items : List JsonValue)
  | obj (fields : List (String × JsonValue))

def JsonValue.asStr : JsonValue → Option String
  | str s => some s
  | _ => none

abbrev Claims := Table String JsonValue

def Claims.strClaim (claims : Claims) (name : String) : Option String :=
  (claims.lookup name).bind JsonValue.asStr

def strings : JsonValue → List String
  | .str s => [s]
  | .arr items => items.filterMap JsonValue.asStr
  | _ => []

inductive SvidAlg where
  | edDsa
  | rs256
  | es256
  | es384
  deriving DecidableEq

/-! ### Validation parameters -/

structure Validation where
  algorithm : SvidAlg
  leeway : Nat
  requiredSpecClaims : List String
  iss : Option (List String)
  aud : Option (List String)

/-- `Validation::new`: `exp` is required and checked with 60 seconds of leeway. -/
def Validation.new (algorithm : SvidAlg) : Validation where
  algorithm := algorithm
  leeway := 60
  requiredSpecClaims := ["exp"]
  iss := none
  aud := none

def expClaim (claims : Claims) : Option Nat :=
  match claims.lookup "exp" with
  | some (.num (.ofNat n)) => some n
  | _ => none

def specClaimPresent (claims : Claims) (name : String) : Bool :=
  if name = "exp" then (expClaim claims).isSome
  else if name = "sub" then (claims.strClaim "sub").isSome
  else (claims.lookup name).any fun v => !(strings v).isEmpty

namespace Validation

def issOk (v : Validation) (claims : Claims) : Bool :=
  match v.iss with
  | none => true
  | some expected => ((claims.lookup "iss").map strings).any fun actual =>
      actual.any expected.contains

def audOk (v : Validation) (claims : Claims) : Bool :=
  match v.aud with
  | none => true
  | some expected => ((claims.lookup "aud").map strings).any fun actual =>
      actual.any expected.contains

def expOk (v : Validation) (claims : Claims) (now : Nat) : Bool :=
  (expClaim claims).all fun exp => now ≤ exp + v.leeway

def accepts (v : Validation) (claims : Claims) (now : Nat) : Bool :=
  v.requiredSpecClaims.all (specClaimPresent claims) && v.expOk claims now && v.issOk claims &&
    v.audOk claims

end Validation

/-! ### Compact texts -/

/-- Base64url without padding over JSON, as used for the three parts of a compact
JWS. An encoded part never contains the separator. -/
structure JwsCodec where
  encodeHeader : SvidAlg → String → String
  encodeClaims : Claims → String
  encodeSig : Bytes → String
  parseAlg : String → Option SvidAlg
  parseClaims : String → Option Claims
  parseSig : String → Option Bytes
  parseAlg_encode : ∀ alg kid, parseAlg (encodeHeader alg kid) = some alg
  parseClaims_encode : ∀ claims, parseClaims (encodeClaims claims) = some claims
  parseSig_encode : ∀ sig, parseSig (encodeSig sig) = some sig
  header_noDot : ∀ alg kid, '.' ∉ (encodeHeader alg kid).toList
  claims_noDot : ∀ claims, '.' ∉ (encodeClaims claims).toList
  sig_noDot : ∀ sig, '.' ∉ (encodeSig sig).toList

def compactParts (token : String) : Option (String × String × String) :=
  match Text.split '.' token with
  | [header, claims, signature] => some (header, claims, signature)
  | _ => none

def unverifiedClaims (codec : JwsCodec) (token : String) : Option Claims :=
  (compactParts token).bind fun p => codec.parseClaims p.2.1

def signingInput (header claims : String) : String := header ++ "." ++ claims

def assemble (header claims signature : String) : String :=
  signingInput header claims ++ "." ++ signature

theorem compactParts_assemble {header claims signature : String} (hh : '.' ∉ header.toList)
    (hc : '.' ∉ claims.toList) (hs : '.' ∉ signature.toList) :
    compactParts (assemble header claims signature) = some (header, claims, signature) := by
  have hsplit : Text.split '.' (assemble header claims signature) = [header, claims, signature] :=
    Text.split_three hh hc hs
  rw [compactParts, hsplit]

/-- The verification entry point of `jsonwebtoken`: `decode` answers the claims of
a well-formed token whose algorithm is the expected one, whose signature verifies
and whose registered claims pass the validation parameters, at the current time. -/
structure JwtLibrary (codec : JwsCodec) where
  verify : SvidAlg → Bytes → String → Bytes → Bool
  decode : String → Bytes → Validation → Nat → Option Claims
  decode_eq_some : ∀ token key v now claims, decode token key v now = some claims ↔
    ∃ header payload signature sig, compactParts token = some (header, payload, signature) ∧
      codec.parseAlg header = some v.algorithm ∧ codec.parseSig signature = some sig ∧
      verify v.algorithm key (signingInput header payload) sig = true ∧
      codec.parseClaims payload = some claims ∧ v.accepts claims now = true

theorem JwtLibrary.decode_unverified {codec : JwsCodec} (lib : JwtLibrary codec) {token : String}
    {key : Bytes} {v : Validation} {now : Nat} {claims : Claims}
    (h : lib.decode token key v now = some claims) :
    unverifiedClaims codec token = some claims ∧ v.accepts claims now = true := by
  obtain ⟨_, _, _, _, hparts, -, -, -, hclaims, haccepts⟩ :=
    (lib.decode_eq_some token key v now claims).mp h
  exact ⟨by simp [unverifiedClaims, hparts, hclaims], haccepts⟩

theorem unverifiedClaims_assemble (codec : JwsCodec) (alg : SvidAlg) (kid : String)
    (claims : Claims) (sig : Bytes) :
    unverifiedClaims codec (assemble (codec.encodeHeader alg kid) (codec.encodeClaims claims)
      (codec.encodeSig sig)) = some claims := by
  have hparts := compactParts_assemble (codec.header_noDot alg kid) (codec.claims_noDot claims)
    (codec.sig_noDot sig)
  simp only [unverifiedClaims, hparts, Option.bind_some]
  exact codec.parseClaims_encode claims

theorem JwtLibrary.decode_assemble {codec : JwsCodec} (lib : JwtLibrary codec) (alg : SvidAlg)
    (kid : String) (claims claims' : Claims) (sig key : Bytes) (v : Validation) (now : Nat) :
    lib.decode (assemble (codec.encodeHeader alg kid) (codec.encodeClaims claims)
        (codec.encodeSig sig)) key v now = some claims' ↔
      claims' = claims ∧ v.algorithm = alg ∧
        lib.verify alg key (signingInput (codec.encodeHeader alg kid) (codec.encodeClaims claims))
          sig = true ∧ v.accepts claims now = true := by
  have hparts := compactParts_assemble (codec.header_noDot alg kid) (codec.claims_noDot claims)
    (codec.sig_noDot sig)
  rw [lib.decode_eq_some, hparts]
  constructor
  · rintro ⟨_, _, _, _, hsplit, halg, hsig, hverify, hclaims, haccepts⟩
    cases hsplit
    rw [codec.parseAlg_encode] at halg
    rw [codec.parseSig_encode] at hsig
    rw [codec.parseClaims_encode] at hclaims
    cases hsig
    cases hclaims
    have hsame : alg = v.algorithm := Option.some.inj halg
    subst hsame
    exact ⟨rfl, rfl, hverify, haccepts⟩
  · rintro ⟨rfl, rfl, hverify, haccepts⟩
    exact ⟨_, _, _, sig, rfl, codec.parseAlg_encode _ _, codec.parseSig_encode sig, hverify,
      codec.parseClaims_encode _, haccepts⟩

theorem trim_assemble (header claims signature : String) :
    Text.trim (assemble header claims signature) ≠ "" := by
  have hdot : '.' ∈ (assemble header claims signature).toList := by
    simp [assemble, signingInput]
  exact Text.trim_ne_empty hdot (by decide)

def JwtLibrary.ofVerify (codec : JwsCodec) (verify : SvidAlg → Bytes → String → Bytes → Bool) :
    JwtLibrary codec where
  verify := verify
  decode token key v now := do
    let (header, payload, signature) ← compactParts token
    let alg ← codec.parseAlg header
    let sig ← codec.parseSig signature
    let claims ← codec.parseClaims payload
    if alg = v.algorithm ∧ verify v.algorithm key (signingInput header payload) sig = true ∧
        v.accepts claims now = true then some claims else none
  decode_eq_some := by
    intro token key v now claims
    simp only [Option.bind_eq_bind, Option.bind_eq_some_iff, Prod.exists, Option.ite_none_right_eq_some,
      Option.some.injEq]
    constructor
    · rintro ⟨header, payload, signature, hparts, alg, halg, sig, hsig, claims', hclaims,
        ⟨rfl, hverify, haccepts⟩, rfl⟩
      exact ⟨header, payload, signature, sig, hparts, halg, hsig, hverify, hclaims, haccepts⟩
    · rintro ⟨header, payload, signature, sig, hparts, halg, hsig, hverify, hclaims, haccepts⟩
      exact ⟨header, payload, signature, hparts, v.algorithm, halg, sig, hsig, claims, hclaims,
        ⟨rfl, hverify, haccepts⟩, rfl⟩

end Basil.Jwt
