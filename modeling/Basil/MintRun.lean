import Basil.JwtCodec
import Basil.NatsMinting
import Basil.RotationGrace

/-!
# Minting while issuer keys rotate

A minted token names its issuer by the public half that the minter read: the `kid` of a JWT, the
`iss` of a NATS credential. It is signed in a later request, by the version that is the newest then.
-/

namespace Basil.MintRun

open Jwt Nats Proc Rotation Transit
open Minting (MintEnv GenericMintError)

/-! ### The requests of the other calls -/

/-- A request of a mint, a rotation or a retention sweep. -/
inductive Request where
  | readKey (name : String)
  | sign (name : String) (params : SignParams) (input : Bytes)
  | rotateKey (name : String)
  | configKey (name : String) (minDecryptionVersion minAvailableVersion : Option Nat)

section Requests

variable {κ ν : Type} (E : TransitEngine κ ν) (keys : ν → String → Option (TransitKey κ))

def serve (v : ν) : Request → ν
  | .readKey name => ((E.readKey name).exec v).2
  | .sign name params input => ((E.sign name params input).exec v).2
  | .rotateKey name => ((E.rotateKey name).exec v).2
  | .configKey name floor available => ((E.configKey name floor available).exec v).2

def newest (v : ν) (name : String) : Option κ := (keys v name).map TransitKey.newest

/-- Only a rotation of a key changes its newest version. -/
def Frame : Prop := ∀ request v name, request ≠ .rotateKey name →
  newest keys (serve E v request) name = newest keys v name

variable {E keys}

theorem newest_kept (hframe : Frame E keys) {name : String} {requests : List Request}
    (h : .rotateKey name ∉ requests) (v : ν) :
    newest keys (requests.foldl (serve E) v) name = newest keys v name := by
  induction requests generalizing v with
  | nil => rfl
  | cons request requests ih =>
    rw [List.mem_cons, not_or] at h
    rw [List.foldl_cons, ih h.2, hframe request v name (Ne.symm h.1)]

end Requests

/-! ### One mint among them -/

/-- When the requests of one mint are served. A generic mint reads the public key twice; `reading`
is the state for the last read, and `between` is served after it and before the signature. -/
structure Timeline (ν : Type) where
  earlier : ν
  reading : ν
  between : List Request

inductive MintRequest where
  | generic (issuerName subject : String) (expiresIn : Option Nat) (extra : JsonValue) (now : Nat)
  | svid (issuerId : String) (alg : SvidAlg) (subject audience : String) (expiresIn : Option Nat)
      (extra : JsonValue) (now : Nat)
  | natsUser (spec : MintSpec) (subject : String) (issuerAccount : Option String)
      (permissions : UserPermissions)
  | natsAccount (spec : MintSpec) (subject : String) (signingKeys : List String)
  | natsOperator (spec : MintSpec) (subject : Option String) (signingKeys : List String)
      (accountServerUrl systemAccount : String)
  | natsSigner (spec : MintSpec) (subject : String)
  | natsServer (spec : MintSpec) (subject : String)
  | natsCurve (spec : MintSpec) (subject : String)
  | signNats (spec : SignNatsJwtSpec)

def signOptions : SvidAlg → SignOptions
  | .edDsa => .default
  | .rs256 => .rs256Pkcs1v15Sha256
  | .es256 => .es256
  | .es384 => .es384

section Mint

variable {κ ν : Type} (E : TransitEngine κ ν) (C : TransitCrypto κ) (prims : Primitives)
  (t : Timeline ν)

def answerRead (v : ν) (location : Location) : Except BackendError Bytes :=
  ((readPublicKey E C prims location.path).exec v).1

def signing (location : Location) : ν :=
  t.between.foldl (serve E) ((readPublicKey E C prims location.path).exec t.reading).2

def answerSign (location : Location) (input : String) (options : SignOptions) :
    Except BackendError Bytes :=
  ((signWithOptions E C prims location.path input.toUTF8.toList options).exec
    (signing E C prims t location)).1

variable {codec : JwsCodec} (env : MintEnv codec) (nats : NatsEnv)

def jwtAnswers : MintEnv codec :=
  { env with
    publicKey := answerRead E C prims t.reading
    sign := fun location alg input => answerSign E C prims t location input (signOptions alg) }

def natsAnswers : NatsEnv :=
  { nats with
    publicKey := answerRead E C prims t.reading
    sign := fun location input => answerSign E C prims t location input .default }

/-- `mint_jwt_generic` with its first read at another time than the read of `sign_jwt_claims`. -/
def mintGeneric (location : Location) (issuerName subject : String) (expiresIn : Option Nat)
    (extra : JsonValue) (now : Nat) : Except GenericMintError String := do
  let publicKey ← (answerRead E C prims t.earlier location).mapError .backend
  let alg ← (Minting.jwsAlgForPublicKey env publicKey).mapError .backend
  let claims ← Minting.mergeExtras (Minting.genericClaims env issuerName subject now expiresIn) extra
    Minting.reservedGenericClaims
  Minting.signJwtClaims (jwtAnswers E C prims t env) location alg claims

theorem mintGeneric_eq (h : t.earlier = t.reading) (location : Location) (issuerName subject : String)
    (expiresIn : Option Nat) (extra : JsonValue) (now : Nat) :
    mintGeneric E C prims t env location issuerName subject expiresIn extra now =
      Minting.mintGeneric (jwtAnswers E C prims t env) location issuerName subject expiresIn extra
        now := by
  rw [mintGeneric, h]
  rfl

def mint (location : Location) : MintRequest → Except GenericMintError String
  | .generic issuerName subject expiresIn extra now =>
      mintGeneric E C prims t env location issuerName subject expiresIn extra now
  | .svid issuerId alg subject audience expiresIn extra now =>
      Minting.mintSvid (jwtAnswers E C prims t env) location issuerId alg subject audience expiresIn
        extra now
  | .natsUser spec subject issuerAccount permissions =>
      (mintNatsUser (natsAnswers E C prims t nats) codec location spec subject issuerAccount
        permissions).mapError .backend
  | .natsAccount spec subject signingKeys =>
      (mintNatsAccount (natsAnswers E C prims t nats) codec location spec subject
        signingKeys).mapError .backend
  | .natsOperator spec subject signingKeys accountServerUrl systemAccount =>
      (mintNatsOperator (natsAnswers E C prims t nats) codec location spec subject signingKeys
        accountServerUrl systemAccount).mapError .backend
  | .natsSigner spec subject =>
      (mintNatsSigner (natsAnswers E C prims t nats) codec location spec subject).mapError .backend
  | .natsServer spec subject =>
      (mintNatsServer (natsAnswers E C prims t nats) codec location spec subject).mapError .backend
  | .natsCurve spec subject =>
      (mintNatsCurve (natsAnswers E C prims t nats) codec location spec subject).mapError .backend
  | .signNats spec => (signNatsJwt (natsAnswers E C prims t nats) codec location spec).mapError .backend

end Mint

/-! ### What a token names -/

inductive Format where
  | jwt
  | nats
  deriving DecidableEq

def MintRequest.format : MintRequest → Format
  | generic .. | svid .. => .jwt
  | _ => .nats

section Names

variable {κ ν : Type} {codec : JwsCodec} (env : MintEnv codec) (nats : NatsEnv)

/-- The text to be signed names `publicKey`. -/
def Names : Format → Bytes → String → SignOptions → Prop
  | .jwt, publicKey, input, options => ∃ alg claims, options = signOptions alg ∧
      input = signingInput (codec.encodeHeader alg (env.kid publicKey alg)) (codec.encodeClaims claims)
  | .nats, publicKey, input, options => ∃ role key claims, options = .default ∧
      FixedBytes.bytes key = publicKey ∧ input = signingInput header (codec.encodeClaims claims) ∧
      claims.strClaim "iss" = some (encodePublic nats.crypto role key)

variable (E : TransitEngine κ ν) (C : TransitCrypto κ) (prims : Primitives) (t : Timeline ν)

/-- The signature part of the token was made by `k`. -/
def SignedBy (codec : JwsCodec) (k : κ) (token : String) : Prop :=
  ∃ input options draw signature,
    C.ecdsaDerToRaw (C.sign k (insertSignOptions options) input.toUTF8.toList draw) options =
      .ok signature ∧
    token = input ++ "." ++ codec.encodeSig signature

/-- The signature was made by `k` over a text that names `k`. -/
def NamesSigner (format : Format) (k : κ) (token : String) : Prop :=
  ∃ publicKey input options draw signature, publicHalf C prims k = .ok publicKey ∧
    Names env nats format publicKey input options ∧
    C.ecdsaDerToRaw (C.sign k (insertSignOptions options) input.toUTF8.toList draw) options =
      .ok signature ∧
    token = input ++ "." ++ codec.encodeSig signature

/-- The token names the public key that was read, over the signature that was answered. -/
def Minted (location : Location) (format : Format) (token : String) : Prop :=
  ∃ publicKey input options signature, answerRead E C prims t.reading location = .ok publicKey ∧
    Names env nats format publicKey input options ∧
    answerSign E C prims t location input options = .ok signature ∧
    token = input ++ "." ++ codec.encodeSig signature

variable {env nats E C prims t} {location : Location} {token : String}

theorem minted_signJwtClaims {alg : SvidAlg} {claims : Claims}
    (h : Minting.signJwtClaims (jwtAnswers E C prims t env) location alg claims = .ok token) :
    Minted env nats E C prims t location .jwt token := by
  simp only [Minting.signJwtClaims, eq_ok] at h
  obtain ⟨publicKey, hread, signature, hsign, rfl⟩ := h
  exact ⟨publicKey, _, signOptions alg, signature, hread, ⟨alg, claims, rfl, rfl⟩, hsign, rfl⟩

theorem minted_signClaims {role : NkeyType} {issuer : String} {claims : Claims}
    (hissuer : issuerNkey (natsAnswers E C prims t nats) location role = .ok issuer)
    (hiss : claims.strClaim "iss" = some issuer)
    (h : signClaims (natsAnswers E C prims t nats) codec location claims = .ok token) :
    Minted env nats E C prims t location .nats token := by
  simp only [issuerNkey, encodeNkey, eq_ok] at hissuer
  obtain ⟨publicKey, hread, key, hkey, rfl⟩ := hissuer
  simp only [signClaims, eq_ok] at h
  obtain ⟨signature, hsign, rfl⟩ := h
  exact ⟨publicKey, _, .default, signature, hread,
    ⟨role, key, claims, rfl, (FixedBytes.ofBytes?_eq_some.mp hkey).symm, rfl, hiss⟩, hsign, rfl⟩

theorem minted_mintNatsRole {spec : MintSpec} {subject : String} {subjectRole : NkeyType}
    {kind : RoleKind}
    (h : mintNatsRole (natsAnswers E C prims t nats) codec location spec subject subjectRole kind =
      .ok token) :
    Minted env nats E C prims t location .nats token := by
  simp only [mintNatsRole, bind_eq_ok] at h
  obtain ⟨_, -, _, -, issuer, hissuer, htoken⟩ := h
  exact minted_signClaims hissuer (tokenClaims_iss _ _ _ _) htoken

theorem minted_of_mint {request : MintRequest}
    (h : mint E C prims t env nats location request = .ok token) :
    Minted env nats E C prims t location request.format token := by
  cases request with
  | generic =>
    simp only [mint, mintGeneric, bind_eq_ok] at h
    obtain ⟨_, -, _, -, _, -, htoken⟩ := h
    exact minted_signJwtClaims htoken
  | svid =>
    simp only [mint, Minting.mintSvid, bind_eq_ok] at h
    obtain ⟨_, -, htoken⟩ := h
    exact minted_signJwtClaims htoken
  | natsUser =>
    simp only [mint, mintNatsUser, mapError_eq_ok, bind_eq_ok] at h
    obtain ⟨_, -, _, -, _, -, issuer, hissuer, htoken⟩ := h
    exact minted_signClaims hissuer (tokenClaims_iss _ _ _ _) htoken
  | natsAccount =>
    simp only [mint, mintNatsAccount, mapError_eq_ok, bind_eq_ok] at h
    obtain ⟨_, -, _, -, _, -, issuer, hissuer, htoken⟩ := h
    exact minted_signClaims hissuer (tokenClaims_iss _ _ _ _) htoken
  | natsOperator =>
    simp only [mint, mintNatsOperator, mapError_eq_ok, bind_eq_ok] at h
    obtain ⟨_, -, issuer, hissuer, _, -, _, -, _, -, htoken⟩ := h
    exact minted_signClaims hissuer (tokenClaims_iss _ _ _ _) htoken
  | natsSigner =>
    simp only [mint, mintNatsSigner, mapError_eq_ok, bind_eq_ok] at h
    obtain ⟨_, -, _, -, issuer, hissuer, htoken⟩ := h
    exact minted_signClaims hissuer (tokenClaims_iss _ _ _ _) htoken
  | natsServer => exact minted_mintNatsRole (mapError_eq_ok.mp h)
  | natsCurve => exact minted_mintNatsRole (mapError_eq_ok.mp h)
  | signNats =>
    simp only [mint, signNatsJwt, mapError_eq_ok] at h
    split at h
    · simp only [bind_eq_ok] at h
      obtain ⟨_, -, issuer, hissuer, claims, hclaims, htoken⟩ := h
      exact minted_signClaims hissuer (normalizeClaims_iss _ hclaims) htoken
    · cases h

end Names

/-! ### Selection by key id -/

section Selection

variable {κ ν : Type} {codec : JwsCodec} (env : MintEnv codec) (nats : NatsEnv)
  (C : TransitCrypto κ) (prims : Primitives)

structure Sound : Prop where
  kid_injective : ∀ alg, Function.Injective fun publicKey => env.kid publicKey alg
  header_injective : ∀ alg, Function.Injective (codec.encodeHeader alg)
  base32_injective : Function.Injective nats.crypto.base32Encode
  verifies : ∀ k publicKey alg input draw signature, publicHalf C prims k = .ok publicKey →
    C.ecdsaDerToRaw (C.sign k (insertSignOptions (signOptions alg)) input.toUTF8.toList draw)
      (signOptions alg) = .ok signature → env.lib.verify alg publicKey input signature = true

/-- Every published key that the token's `kid` selects verifies it. -/
def Selectable (token : String) : Prop :=
  ∀ published alg claims signature,
    token = assemble (codec.encodeHeader alg (env.kid published alg)) (codec.encodeClaims claims)
      (codec.encodeSig signature) →
    env.lib.verify alg published (signingInput (codec.encodeHeader alg (env.kid published alg))
      (codec.encodeClaims claims)) signature = true

variable {env nats C prims} {claims claims' : Claims} {sig sig' : Bytes} {k : κ} {token : String}

theorem assemble_parts {header header' : String} (hdot : '.' ∉ header.toList)
    (hdot' : '.' ∉ header'.toList)
    (h : assemble header (codec.encodeClaims claims) (codec.encodeSig sig) =
      assemble header' (codec.encodeClaims claims') (codec.encodeSig sig')) :
    header = header' ∧ claims = claims' ∧ sig = sig' := by
  have hparts := congrArg compactParts h
  rw [compactParts_assemble hdot (codec.claims_noDot claims) (codec.sig_noDot sig),
    compactParts_assemble hdot' (codec.claims_noDot claims') (codec.sig_noDot sig')] at hparts
  simp only [Option.some.injEq, Prod.mk.injEq] at hparts
  obtain ⟨hheader, hclaims, hsig⟩ := hparts
  refine ⟨hheader, ?_, ?_⟩
  · have hparse := congrArg codec.parseClaims hclaims
    rw [codec.parseClaims_encode, codec.parseClaims_encode] at hparse
    exact Option.some.inj hparse
  · have hparse := congrArg codec.parseSig hsig
    rw [codec.parseSig_encode, codec.parseSig_encode] at hparse
    exact Option.some.inj hparse

theorem assemble_inj {alg alg' : SvidAlg} {kid kid' : String}
    (h : assemble (codec.encodeHeader alg kid) (codec.encodeClaims claims) (codec.encodeSig sig) =
      assemble (codec.encodeHeader alg' kid') (codec.encodeClaims claims') (codec.encodeSig sig')) :
    alg = alg' ∧ codec.encodeHeader alg kid = codec.encodeHeader alg' kid' ∧ claims = claims' ∧
      sig = sig' := by
  obtain ⟨hheader, hrest⟩ := assemble_parts (codec.header_noDot alg kid) (codec.header_noDot alg' kid') h
  have halg := congrArg codec.parseAlg hheader
  rw [codec.parseAlg_encode, codec.parseAlg_encode] at halg
  exact ⟨Option.some.inj halg, hheader, hrest⟩

theorem header_noDot : '.' ∉ header.toList := by decide +kernel

theorem encodePublic_key {crypto : SealCrypto} (hbase32 : Function.Injective crypto.base32Encode)
    {role role' : NkeyType} {key key' : FixedBytes 32}
    (h : encodePublic crypto role key = encodePublic crypto role' key') : key.bytes = key'.bytes := by
  have hraw := hbase32 h
  have hbody := List.append_inj_left hraw (by simp [key.length_eq, key'.length_eq])
  exact (List.cons.inj hbody).2

variable (hsound : Sound env nats C prims)
include hsound

/-- A token names one public key. -/
theorem names_unique {format : Format} {publicKey publicKey' : Bytes} {input input' : String}
    {options options' : SignOptions} (h : Names env nats format publicKey input options)
    (h' : Names env nats format publicKey' input' options')
    (htoken : input ++ "." ++ codec.encodeSig sig = input' ++ "." ++ codec.encodeSig sig') :
    publicKey = publicKey' := by
  cases format with
  | jwt =>
    obtain ⟨alg, _, -, rfl⟩ := h
    obtain ⟨_, _, -, rfl⟩ := h'
    obtain ⟨rfl, hheader, -⟩ := assemble_inj htoken
    exact hsound.kid_injective alg (hsound.header_injective alg hheader)
  | nats =>
    obtain ⟨_, _, _, -, rfl, rfl, hiss⟩ := h
    obtain ⟨_, _, _, -, rfl, rfl, hiss'⟩ := h'
    obtain ⟨-, rfl, -⟩ := assemble_parts header_noDot header_noDot htoken
    exact encodePublic_key hsound.base32_injective (Option.some.inj (hiss.symm.trans hiss'))

theorem selectable_of_namesSigner (h : NamesSigner env nats C prims .jwt k token) :
    Selectable env token := by
  obtain ⟨_, _, _, draw, signature, hhalf, ⟨alg, _, rfl, rfl⟩, hraw, rfl⟩ := h
  intro published alg' claims' signature' htoken
  obtain ⟨rfl, hheader, rfl, rfl⟩ := assemble_inj htoken
  obtain rfl := hsound.kid_injective alg (hsound.header_injective alg hheader)
  exact hsound.verifies k _ alg _ draw signature hhalf hraw

end Selection

/-! ### Tokens -/

section Tokens

variable {κ ν : Type} {E : TransitEngine κ ν} {C : TransitCrypto κ} {prims : Primitives}
  {keys : ν → String → Option (TransitKey κ)} {codec : JwsCodec} {env : MintEnv codec} {nats : NatsEnv}
  {t : Timeline ν} {location : Location} {token : String}

theorem readPublicKey_ok (hlaws : E.Laws C prims keys) {v v' : ν} {name : String} {publicKey : Bytes}
    (h : (readPublicKey E C prims name).exec v = (.ok publicKey, v')) :
    ∃ key, keys v name = some key ∧ keys v' name = some key ∧
      publicKeyBytes C prims key = .ok publicKey := by
  simp only [readPublicKey, exec_ok] at h
  obtain ⟨key, v₁, hread, hbytes, rfl⟩ := h
  obtain ⟨hbefore, hafter⟩ := hlaws.read_returns_key hread
  exact ⟨key, hbefore, hafter, hbytes⟩

/-- The token names its signer exactly when the version that signs has the public half that was read. -/
theorem names_iff (hlaws : E.Laws C prims keys) (hb64 : prims.B64Sound)
    (hsound : Sound env nats C prims) {format : Format}
    (h : Minted env nats E C prims t location format token) :
    ∃ read signed, keys t.reading location.path = some read ∧
      keys (((readPublicKey E C prims location.path).exec t.reading).2) location.path = some read ∧
      keys (signing E C prims t location) location.path = some signed ∧
      SignedBy C codec signed.newest token ∧
      (NamesSigner env nats C prims format signed.newest token ↔
        publicHalf C prims signed.newest = publicKeyBytes C prims read) := by
  obtain ⟨publicKey, input, options, signature, hread, hnames, hsign, rfl⟩ := h
  obtain ⟨read, hbefore, hafter, hbytes⟩ := readPublicKey_ok hlaws (Prod.ext hread rfl)
  obtain ⟨signed, draw, hsigned, hraw⟩ := signWithOptions_ok hlaws hb64 (Prod.ext hsign rfl)
  refine ⟨read, signed, hbefore, hafter, hsigned, ⟨input, options, draw, signature, hraw, rfl⟩, ?_⟩
  rw [hbytes]
  constructor
  · rintro ⟨publicKey', _, _, _, _, hhalf, hnames', -, htoken⟩
    rw [hhalf, names_unique hsound hnames hnames' htoken]
  · intro hhalf
    exact ⟨publicKey, input, options, draw, signature, hhalf, hnames, hraw, rfl⟩

end Tokens

/-! ### Issuers on the server in memory -/

theorem engine_frame {κ : Type} (C : TransitCrypto κ) (prims : Primitives) :
    Frame (Vault.engine C prims) Vault.keys := by
  intro request v name hne
  cases request with
  | readKey other => rfl
  | sign other params input =>
    simp only [newest, serve, Vault.engine, Vault.sign, exec_ofFun]
    split
    · split <;> rfl
    · rfl
  | rotateKey other =>
    have hother : name ≠ other := fun h => hne (h ▸ rfl)
    simp only [newest, serve, Vault.engine, Vault.rotateKey, exec_ofFun]
    split
    · exact congrArg (Option.map _) (Function.update_of_ne hother _ _)
    · rfl
  | configKey other floor available =>
    simp only [newest, serve, Vault.engine, Vault.configKey, exec_ofFun]
    split
    · next key hkey =>
      split
      · by_cases hother : name = other
        · subst hother
          rw [Vault.put_keys_self, hkey]
          rfl
        · exact congrArg (Option.map _) (Function.update_of_ne hother _ _)
      · rfl
    · rfl

/-- A key pair of the fixture: whether it is an ECDSA pair, and whether it is the second version. -/
structure Pair where
  ecdsa : Bool
  second : Bool

def Pair.byte (k : Pair) : UInt8 := if k.second then 49 else 48

/-- An ECDSA public key is PEM text, an Ed25519 one is base64 of its bytes. -/
def Pair.publicKeyField (k : Pair) : String :=
  match k.ecdsa, k.second with
  | true, false => "-----BEGIN PUBLIC KEY-----0"
  | true, true => "-----BEGIN PUBLIC KEY-----1"
  | false, _ => bytesText (List.replicate 32 k.byte)

def Pair.publicKey (k : Pair) : Bytes :=
  if k.ecdsa then "-----BEGIN PUBLIC KEY-----".toUTF8.toList ++ [k.byte] else List.replicate 32 k.byte

def pairCrypto : TransitCrypto Pair where
  uuidSimple := fun d => toString d
  keygen := fun keyType d => ⟨keyType != .ed25519, d != 0⟩
  fromPkcs8 := fun _ _ => none
  publicKeyField := Pair.publicKeyField
  sign := fun k _ message _ => k.byte :: message
  verify := fun k _ message signature => signature == k.byte :: message
  encrypt := fun _ plaintext _ _ => plaintext
  decrypt := fun _ ciphertext _ => some ciphertext
  derToRaw := fun _ der => some der
  rawToDer := fun _ raw => some raw

theorem pairCrypto_half (k : Pair) : publicHalf pairCrypto signerPrims k = .ok k.publicKey := by
  obtain ⟨ecdsa, second⟩ := k
  cases ecdsa <;> cases second <;> decide +kernel

theorem pairCrypto_raw (k : Pair) (params : SignParams) (message : Bytes) (draw : Nat)
    (options : SignOptions) :
    pairCrypto.ecdsaDerToRaw (pairCrypto.sign k params message draw) options =
      .ok (k.byte :: message) := by
  cases options <;> rfl

noncomputable def pairEnv : MintEnv Code.codec where
  lib := JwtLibrary.ofVerify Code.codec fun _ publicKey input signature =>
    decide (signature = publicKey.getLastD 0 :: input.toUTF8.toList)
  pemOk := fun _ _ => true
  publicKey := fun _ => .error httpNotFound
  sign := fun _ _ _ => .error httpNotFound
  jtiHash := fun _ => "jti"
  kid := fun publicKey _ => bytesText publicKey
  isP256 := fun _ => true
  isP384 := fun _ => false
  isRsa := fun _ => false
  parseJson := fun _ => .error "expected value"

def pairNats : NatsEnv where
  crypto :=
    { SealCrypto.refusing with
      base32Encode := bytesText
      base32Decode := fun text => some (textBytes text) }
  jtiHash := fun _ => "jti"
  publicKey := fun _ => .error httpNotFound
  sign := fun _ _ => .error httpNotFound

theorem bytesText_injective : Function.Injective bytesText :=
  Function.LeftInverse.injective textBytes_bytesText

theorem pair_sound : Sound pairEnv pairNats pairCrypto signerPrims where
  kid_injective := fun _ => bytesText_injective
  header_injective := fun _ _ _ h => (Prod.mk.inj (Code.headerText_injective h)).2
  base32_injective := bytesText_injective
  verifies := by
    intro k publicKey alg input draw signature hhalf hraw
    rw [pairCrypto_half] at hhalf
    rw [pairCrypto_raw] at hraw
    cases hhalf
    cases hraw
    obtain ⟨ecdsa, second⟩ := k
    cases ecdsa <;> exact decide_eq_true (by simp [Pair.publicKey])

/-- An ECDSA key and an Ed25519 key, both at version 1. -/
def pairVault : Vault Pair where
  keys
    | "svid-issuer" => some ⟨.ecdsaP256, ⟨true, false⟩, [], 1⟩
    | "operator" => some ⟨.ed25519, ⟨false, false⟩, [], 1⟩
    | _ => none
  kv := fun _ => []
  draws := 1

def svidRequest : MintRequest :=
  .svid "spiffe://example.org/basil" .es256 "spiffe://example.org/svc-api" "vault" (some 300) .null 1000

def operatorRequest : MintRequest :=
  .natsOperator ⟨.operator, "ops", none, 1000⟩ none [] "" ""

def issuerAt (path : String) : Location := ⟨"bao", path⟩

/-- The requests of one rotation: the key is rotated, read, and its floor is set. -/
def rotation (path : String) : List Request :=
  [.rotateKey path, .readKey path, .configKey path (some 2) none]

/-- The mint is served while a rotation of the key `rotated` is served. -/
def during (rotated : String) : Timeline (Vault Pair) := ⟨pairVault, pairVault, rotation rotated⟩

noncomputable abbrev mintDuring (rotated path : String) :
    MintRequest → Except GenericMintError String :=
  mint (Vault.engine pairCrypto signerPrims) pairCrypto signerPrims (during rotated) pairEnv pairNats
    (issuerAt path)

abbrev signer (rotated path : String) : Option Pair :=
  newest Vault.keys (signing (Vault.engine pairCrypto signerPrims) pairCrypto signerPrims
    (during rotated) (issuerAt path)) path

theorem pairVault_fits {path : String} {key : TransitKey Pair} (h : pairVault.keys path = some key) :
    key.latest ≤ u32Max := by
  simp only [pairVault] at h
  split at h
  · cases h
    decide
  · cases h
    decide
  · cases h

/-- A token that one version made and that does not name this version. -/
def Misnamed (path : String) (request : MintRequest) : Prop :=
  ∃ token signed, mintDuring path path request = .ok token ∧ signer path path = some signed ∧
    SignedBy pairCrypto Code.codec signed token ∧
    ¬ NamesSigner pairEnv pairNats pairCrypto signerPrims request.format signed token

theorem misnamed {path token : String} {request : MintRequest} {key : TransitKey Pair} {later : Pair}
    (hmint : mintDuring path path request = .ok token) (hkey : pairVault.keys path = some key)
    (hsigner : signer path path = some later) (hne : later.publicKey ≠ key.newest.publicKey) :
    Misnamed path request := by
  obtain ⟨read, signed, hread, -, hsigned, hmade, hiff⟩ :=
    names_iff (Vault.engine_laws pairCrypto signerPrims) signerPrims_b64 pair_sound
      (minted_of_mint hmint)
  cases hkey.symm.trans hread
  have hlater : signer path path = some signed.newest :=
    congrArg (Option.map TransitKey.newest) hsigned
  cases hsigner.symm.trans hlater
  refine ⟨token, signed.newest, hmint, hlater, hmade, ?_⟩
  rw [hiff, publicKeyBytes_newest (pairVault_fits hkey), pairCrypto_half, pairCrypto_half,
    Except.ok.injEq]
  exact hne

end Basil.MintRun
