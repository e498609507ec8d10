import Basil.Aead
import Basil.CloudKms
import Basil.Keystore
import Basil.RotationGrace

/-!
# Decrypting what was encrypted

The request that undoes an encryption measures the ciphertext against the cap on the plaintext.
-/

namespace Basil

open Proc Keystore Rotation X25519Seal Aead
open Signing (tokenActor tokenContext)

variable {σ : Type} {m : Manager σ} {C : SealCrypto} {limits : BrokerLimits} {s s' t : σ}

/-! ### Keys held by a backend -/

/-- `same path s t`: the key at `path` is in `t` the usable key it was in `s`. -/
structure AeadStore (b : Backend σ) where
  overhead : Nat
  same : String → σ → σ → Prop
  round_trip : ∀ {path : String} {alg : AeadAlgorithm} {plaintext : Bytes} {aad : Option Bytes}
    {env : CiphertextEnvelope} {s s' t : σ},
    (b.encrypt path alg plaintext aad).exec s = (.ok env, s') → same path s t →
      env.alg = alg ∧ env.ciphertext.length = plaintext.length + overhead ∧
        ((b.decrypt path env aad).exec t).1 = .ok plaintext

section Backends

def transitAead {κ : Type} (T : TransitCrypto κ) {prims : Primitives} (hb64 : prims.B64Sound)
    {overhead : Nat} (hcipher : ∀ k aad draw,
      CipherCorrect overhead (fun m => some (T.encrypt k m aad draw)) (fun c => T.decrypt k c aad)) :
    AeadStore (Transit.backend T prims) where
  overhead := overhead
  same := fun path v w => w.keys path = v.keys path ∧
    ∀ key, v.keys path = some key → key.minDecryptionVersion ≤ key.latest
  round_trip := by
    intro path alg plaintext aad env v v' w h hsame
    obtain ⟨hkeys, hfloor⟩ := hsame
    change (Transit.encrypt (Vault.engine T prims) prims path alg plaintext aad).exec v = (.ok env, v') at h
    simp only [Transit.encrypt, Vault.engine, Vault.encrypt, exec_ok, exec_ofFun] at h
    obtain ⟨wrapped, _, hwrapped, ⟨version, bytes⟩, _, ⟨hsplit, rfl⟩, rfl, rfl⟩ := h
    cases hkey : v.keys path with
    | none =>
      simp only [hkey] at hwrapped
      cases hwrapped
    | some key =>
      simp only [hkey] at hwrapped
      split at hwrapped
      · cases hwrapped
      · cases hwrapped
        have htext := splitVaultWrapped_vaultText hb64 key.latest (T.encrypt key.newest plaintext aad v.draws)
        rw [htext] at hsplit
        split at hsplit
        · next hversion =>
          cases hsplit
          have hcorrect := hcipher key.newest aad v.draws
          have hnamed : Vault.namedVersion prims key (vaultText key.latest
              (prims.b64Encode (T.encrypt key.newest plaintext aad v.draws))) =
                some (key.newest, T.encrypt key.newest plaintext aad v.draws) := by
            have hnot : ¬ key.latest < key.minDecryptionVersion := not_lt.mpr (hfloor key hkey)
            rw [Vault.namedVersion, htext, if_pos hversion]
            simp [hnot, key.version?_latest]
          refine ⟨rfl, hcorrect.length_encrypt rfl, ?_⟩
          change ((Transit.decrypt (Vault.engine T prims) prims path _ aad).exec w).1 = _
          simp only [Transit.decrypt, Vault.engine, Vault.decrypt, exec_mapErr, exec_ofFun, hkeys, hkey,
            Option.bind_some, hnamed, hcorrect.decrypt_encrypt rfl]
          rfl
        · cases hsplit

def keystoreAead (K : KeystoreCrypto) (hcipher : ∀ alg key nonce aad,
    CipherCorrect tagLen (K.aeadEncrypt alg key nonce aad) (K.aeadDecrypt alg key nonce aad)) :
    AeadStore (backend K) where
  overhead := tagLen
  same := fun path v w => w.entries path = v.entries path
  round_trip := by
    intro path alg plaintext aad env v v' w h hsame
    simp only [backend, getSecret, draw, crypto, encryptAead, exec_ok, exec_ofFun, eq_ok] at h
    obtain ⟨entry, _, hentry, draw, _, -, ⟨key, hkey, ciphertext, hencrypt, rfl⟩, -⟩ := h
    have hheld : v.entries path = some entry := orErr_eq_ok.mp (congrArg Prod.fst hentry)
    have hcorrect := hcipher alg key (K.nonce draw) (envelopeAad alg keystoreVersion aad)
    refine ⟨rfl, hcorrect.length_encrypt hencrypt, ?_⟩
    have hread : (getSecret path).exec w = (.ok entry, w) := by
      rw [getSecret, exec_ofFun, hsame, hheld]
      rfl
    have hopen : decryptAead K entry
        ⟨alg, keystoreVersion, (K.nonce draw).bytes, ciphertext⟩ aad = .ok plaintext := by
      simp only [decryptAead, hkey, ok_bind, FixedBytes.ofBytes?_bytes, orErr]
      rw [hcorrect.decrypt_encrypt hencrypt]
    simp only [backend]
    rw [exec_bind_of_ok hread, crypto, hopen]
    rfl

def awsAead {prims : KmsPrimitives} {client : AwsClient σ} {overhead : Nat}
    {same : String → σ → σ → Prop}
    (hclient : ∀ {ref plaintext context ciphertext s s' t},
      (client.encrypt ref plaintext context).exec s = (.ok (some ciphertext), s') → same ref s t →
        ciphertext.length = plaintext.length + overhead ∧
          ((client.decrypt ref ciphertext context).exec t).1 = .ok (some plaintext)) :
    AeadStore (AwsKms.backend prims client) where
  overhead := overhead
  same := fun path => same (AwsKms.awsKeyRef prims path)
  round_trip := by
    intro path alg plaintext aad env s s' t h hsame
    simp only [AwsKms.backend, AwsKms.encrypt, exec_ok, eq_ok] at h
    obtain ⟨_, _, ⟨rfl, rfl⟩, out, _, hout, ciphertext, _, ⟨rfl, rfl⟩, rfl, rfl⟩ := h
    obtain ⟨hlength, hdecrypt⟩ := hclient hout hsame
    obtain ⟨t', hexec⟩ := exec_of_fst_ok hdecrypt
    refine ⟨rfl, hlength, ?_⟩
    simp only [AwsKms.backend, AwsKms.decrypt]
    rw [exec_check_step (ensure_pos trivial _) rfl,
      exec_bind_of_ok (by rw [exec_mapErr, hexec]; rfl)]
    rfl

def gcpAead {prims : KmsPrimitives} {b64Decode : String → Option Bytes} {keyRing : String}
    {client : GcpClient σ} {overhead : Nat} {same : String → σ → σ → Prop}
    (hclient : ∀ {name plaintext aad ciphertext s s' t},
      (client.encrypt name plaintext aad).exec s = (.ok ciphertext, s') → same name s t →
        ciphertext.length = plaintext.length + overhead ∧
          ((client.decrypt name ciphertext aad).exec t).1 = .ok plaintext) :
    AeadStore (GcpKms.backend prims b64Decode keyRing client) where
  overhead := overhead
  same := fun path => same (GcpKms.cryptoKeyName prims keyRing path)
  round_trip := by
    intro path alg plaintext aad env s s' t h hsame
    simp only [GcpKms.backend, GcpKms.encrypt, exec_ok, ensure_eq_ok] at h
    obtain ⟨_, _, ⟨rfl, rfl⟩, ciphertext, _, hout, rfl, rfl⟩ := h
    obtain ⟨hlength, hdecrypt⟩ := hclient hout hsame
    refine ⟨rfl, hlength, ?_⟩
    simp only [GcpKms.backend, GcpKms.decrypt]
    rw [exec_check_step (ensure_pos trivial _) rfl, exec_mapErr, hdecrypt]
    rfl

end Backends

namespace Manager

variable {keyId : String} {plaintext aad : Bytes} {env : CiphertextEnvelope} {entropy : SealEntropy}

theorem encrypt_ok {alg : AeadAlgorithm} {aad : Option Bytes}
    (h : (m.encrypt keyId alg plaintext aad).exec s = (.ok env, s')) :
    ∃ routed, m.resolve keyId = .ok routed ∧ routed.entry.keyClass ∈ [KeyClass.symmetric] ∧
      aeadKeyAlgorithm routed.entry.keyType = some alg ∧
      ((m.backend routed).encrypt routed.entry.path alg plaintext aad).exec s = (.ok env, s') := by
  simp only [encrypt, route, requireClass, requireAeadMatch, exec_ok, eq_ok] at h
  obtain ⟨routed, _, ⟨hroute, rfl⟩, _, _, ⟨hclass, rfl⟩, _, _, ⟨⟨_, hactual, rfl⟩, rfl⟩, hbackend⟩ := h
  exact ⟨routed, hroute, hclass, hactual, hbackend⟩

theorem decrypt_exec {routed : Routed} (hroute : m.resolve keyId = .ok routed)
    (hclass : routed.entry.keyClass ∈ [KeyClass.symmetric])
    (halg : aeadKeyAlgorithm routed.entry.keyType = some env.alg) (aad : Option Bytes) (t : σ) :
    (m.decrypt keyId env aad).exec t =
      (((m.backend routed).decrypt routed.entry.path env aad).mapErr .backend).exec t := by
  have hmatch : requireAeadMatch keyId routed.entry.keyType env.alg = .ok () := by
    rw [requireAeadMatch, halg]
    exact ensure_pos rfl _
  have hresolved : (m.route keyId).exec t = (.ok routed, t) := by simp [route, hroute]
  rw [decrypt, exec_bind_of_ok hresolved, requireClass,
    exec_check_step (ensure_pos hclass _) rfl, exec_check_step hmatch rfl]

theorem decrypt_encrypt (stores : ∀ name, AeadStore (m.backendOf name)) {alg : AeadAlgorithm}
    {aad : Option Bytes} (h : (m.encrypt keyId alg plaintext aad).exec s = (.ok env, s'))
    (hsame : ∀ routed, m.resolve keyId = .ok routed →
      (stores routed.entry.backend).same routed.entry.path s t) :
    ∃ routed, m.resolve keyId = .ok routed ∧
      env.ciphertext.length = plaintext.length + (stores routed.entry.backend).overhead ∧
      ((m.decrypt keyId env aad).exec t).1 = .ok plaintext := by
  obtain ⟨routed, hroute, hclass, halg, hencrypt⟩ := encrypt_ok h
  have hlaw : env.alg = alg ∧
      env.ciphertext.length = plaintext.length + (stores routed.entry.backend).overhead ∧
      (((m.backend routed).decrypt routed.entry.path env aad).exec t).1 = .ok plaintext :=
    (stores routed.entry.backend).round_trip hencrypt (hsame routed hroute)
  obtain ⟨rfl, hlength, hdecrypt⟩ := hlaw
  refine ⟨routed, hroute, hlength, ?_⟩
  rw [decrypt_exec hroute hclass halg, exec_mapErr, hdecrypt]
  rfl

/-! ### X25519 keys of the value store -/

theorem wrapEnvelope_ok {env : SealedEnvelope}
    (h : (m.wrapEnvelope C keyId plaintext aad entropy).exec s = (.ok env, s')) :
    ∃ recipientPub : FixedBytes 32,
      ((m.readPublicHalf keyId "wrap_envelope" [.sealing]).exec s).1 = .ok recipientPub.bytes ∧
      sealWithParts C recipientPub plaintext aad entropy.ephemeral entropy.nonce =
        .ok env := by
  simp only [wrapEnvelope, exec_ok, mapError_eq_ok] at h
  obtain ⟨_, _, hroute, _, _, ⟨-, rfl⟩, _, _, ⟨-, rfl⟩, bytes, _, hread, pub, _, ⟨hpub, rfl⟩,
    hseal, rfl⟩ := h
  simp only [route, exec_check_ok] at hroute
  obtain ⟨-, rfl⟩ := hroute
  rw [publicFromSlice, array32, orErr_eq_ok,
    FixedBytes.ofBytes?_eq_some] at hpub
  subst hpub
  exact ⟨pub, congrArg Prod.fst hread, hseal⟩

theorem unwrapEnvelope_fst {priv : FixedBytes 32} {env : SealedEnvelope}
    (hpriv : ((m.materializeSealingPrivate keyId "unwrap_envelope").exec t).1 = .ok priv)
    (hopen : openEnvelope C priv env aad = .ok plaintext) :
    ((m.unwrapEnvelope C keyId env aad).exec t).1 = .ok plaintext := by
  obtain ⟨_, hread⟩ := exec_of_fst_ok hpriv
  rw [unwrapEnvelope, exec_bind_of_ok hread, exec_check, hopen]
  rfl

theorem encryptNatsCurve_ok {recipientXkey : String} {ciphertext : Bytes}
    (h : (m.encryptNatsCurve C keyId recipientXkey plaintext entropy).exec s = (.ok ciphertext, s')) :
    ∃ priv, ((m.materializeSealingPrivate keyId "encrypt_nats_curve").exec s).1 = .ok priv ∧
      Nats.sealNatsCurve C priv recipientXkey plaintext entropy.natsNonce = .ok ciphertext := by
  simp only [encryptNatsCurve, exec_ok, mapError_eq_ok] at h
  obtain ⟨priv, _, hread, hseal, -⟩ := h
  exact ⟨priv, congrArg Prod.fst hread, hseal⟩

theorem decryptNatsCurve_fst {senderXkey : String} {priv : FixedBytes 32} {ciphertext : Bytes}
    (hpriv : ((m.materializeSealingPrivate keyId "decrypt_nats_curve").exec t).1 = .ok priv)
    (hopen : Nats.openNatsCurve C priv senderXkey ciphertext = .ok plaintext) :
    ((m.decryptNatsCurve C keyId senderXkey ciphertext).exec t).1 = .ok plaintext := by
  obtain ⟨_, hread⟩ := exec_of_fst_ok hpriv
  rw [decryptNatsCurve, exec_bind_of_ok hread, exec_check, hopen]
  rfl

/-! ### ML-KEM keys under software custody -/

def readCustody (m : Manager σ) (routed : Routed) (keyId : String) (kem : KemAlgorithm)
    (op : String) : Proc σ ProviderError (LocalSoftwareMaterial × Bytes) :=
  LocalSoftwareProvider.custodySeed m.prims (m.backend routed) keyId routed.entry.path
    routed.storageKey op kem.token

theorem providerWrapEnvelope_ok {kem : KemAlgorithm} {alg : EnvelopeAlgorithm} {gate : Bool}
    {env : ProviderEnvelope} {d : ProviderDispatch}
    (h : (m.providerWrapEnvelope C keyId kem alg plaintext aad gate entropy).exec s =
      (.ok (env, d), s')) :
    ∃ routed material seed sealedEnv, m.resolve keyId = .ok routed ∧
      routed.entry.keyClass ∈ [KeyClass.sealing] ∧
      routed.entry.keyType = some kem.keyAlgorithm ∧
      m.selectProviderFor routed kem.nativeAlgorithm true "unwrap_envelope" = .ok .localSoftware ∧
      ((m.readCustody routed keyId kem "wrap_envelope").exec s).1 = .ok (material, seed) ∧
      MlKem.sealEnvelope C seed kem alg plaintext aad entropy.encapsulation entropy.nonce =
        .ok sealedEnv ∧
      env = ⟨kem, alg, material.keyVersion, sealedEnv.encapsulatedKey, sealedEnv.nonce.bytes,
        sealedEnv.ciphertext⟩ := by
  simp only [providerWrapEnvelope, route, dispatch, requireClass, requireMlKemSealingKey, exec_ok,
    eq_ok] at h
  obtain ⟨routed, _, ⟨hroute, rfl⟩, _, _, ⟨hclass, rfl⟩, _, _, ⟨htype, rfl⟩, provider, _,
    ⟨hselect, rfl⟩, _, _, hrun, ⟨rfl, rfl⟩, rfl⟩ := h
  cases provider with
  | vaultTransit => cases hrun
  | localSoftware =>
    have hallowed : gate = true := by
      simp only [selectProviderFor, mapError_eq_ok] at hselect
      rcases selectProvider_ok hselect with ⟨hother, -⟩ | ⟨-, hgate, -⟩
      · cases hother
      · exact hgate
    subst hallowed
    simp only [LocalSoftwareProvider.wrapEnvelope, exec_ok, mapError_eq_ok] at hrun
    obtain ⟨⟨material, seed⟩, _, hread, sealedEnv, _, ⟨hseal, rfl⟩, rfl, rfl⟩ := hrun
    refine ⟨routed, material, seed, sealedEnv, hroute, hclass, htype, ?_,
      congrArg Prod.fst hread, hseal, rfl⟩
    simp only [selectProviderFor, mapError_eq_ok] at hselect ⊢
    exact selectProvider_op hselect _

theorem providerUnwrapEnvelope_fst {kem : KemAlgorithm} {alg : EnvelopeAlgorithm} {routed : Routed}
    {material : LocalSoftwareMaterial} {seed : Bytes} {env : MlKem.Envelope}
    (hroute : m.resolve keyId = .ok routed) (hclass : routed.entry.keyClass ∈ [KeyClass.sealing])
    (htype : routed.entry.keyType = some kem.keyAlgorithm)
    (hselect : m.selectProviderFor routed kem.nativeAlgorithm true "unwrap_envelope" =
      .ok .localSoftware)
    (hread : ((m.readCustody routed keyId kem "unwrap_envelope").exec t).1 = .ok (material, seed))
    (hkem : env.kemAlgorithm = kem) (halg : env.envelopeAlgorithm = alg)
    (hopen : MlKem.openEnvelope C seed env aad = .ok plaintext) :
    ∃ d, ((m.providerUnwrapEnvelope C keyId kem alg env.encapsulatedKey env.nonce.bytes
      env.ciphertext aad true).exec t).1 = .ok (plaintext, d) := by
  subst hkem halg
  obtain ⟨t', hseed⟩ := exec_of_fst_ok hread
  have hresolved : (m.route keyId).exec t = (.ok routed, t) := by simp [route, hroute]
  have hclassOk : requireClass "unwrap_envelope" keyId routed.entry.keyClass [.sealing] = .ok () :=
    ensure_pos hclass _
  have hkeyOk : requireMlKemSealingKey keyId routed.entry.keyType env.kemAlgorithm = .ok () :=
    ensure_pos htype _
  have hserved : (LocalSoftwareProvider.unwrapEnvelope C m.prims (m.backend routed) keyId
      routed.entry.path env.kemAlgorithm env.envelopeAlgorithm env.encapsulatedKey env.nonce.bytes
      env.ciphertext aad routed.storageKey).exec t = (.ok plaintext, t') := by
    rw [readCustody] at hseed
    rw [LocalSoftwareProvider.unwrapEnvelope, exec_bind_of_ok hseed]
    simp only [MlKem.envelopeFromParts_parts, mapError_ok]
    rw [check_ok_bind, exec_check, hopen]
    rfl
  refine ⟨⟨.localSoftware, env.kemAlgorithm.token, CryptoProviderId.localSoftware.custodyMode⟩, ?_⟩
  rw [providerUnwrapEnvelope, exec_bind_of_ok hresolved,
    exec_check_step hclassOk rfl,
    exec_check_step hkeyOk rfl, dispatch,
    exec_check_step hselect rfl,
    exec_bind_of_ok (by rw [exec_mapErr, hserved]; rfl)]
  rfl

end Manager

/-! ### The requests -/

structure Caller where
  authGen : Generation
  gateGen : Generation
  ctx : RequestContext

def requestedMlKem (kem : Int) : Option KemAlgorithm :=
  (wireKemAlgorithm kem).join.bind SupportedKem.mlKemProviderAlgorithm

/-- The private half in `t` is the one whose public half `s` publishes. -/
def SealingPair (m : Manager σ) (C : SealCrypto) (keyId : String) (s t : σ) : Prop :=
  ∃ priv, ((m.materializeSealingPrivate keyId "unwrap_envelope").exec t).1 = .ok priv ∧
    ∀ bytes, ((m.readPublicHalf keyId "wrap_envelope" [.sealing]).exec s).1 = .ok bytes →
      bytes = (C.x25519Public priv).bytes

def SameCustody (m : Manager σ) (keyId : String) (kem : KemAlgorithm) (s t : σ) : Prop :=
  ∀ routed seed, m.resolve keyId = .ok routed →
    ((m.readCustody routed keyId kem "wrap_envelope").exec s).1 = .ok seed →
      ((m.readCustody routed keyId kem "unwrap_envelope").exec t).1 = .ok seed

namespace Aead

theorem ensureSupportedKemAlgorithm_ok {value : Int} {op : String} {kem : SupportedKem} :
    ensureSupportedKemAlgorithm value op = .ok kem ↔ wireKemAlgorithm value = some (some kem) := by
  simp only [ensureSupportedKemAlgorithm, eq_ok]
  constructor
  · rintro ⟨_, hwire, rfl⟩
    exact hwire
  · intro h
    exact ⟨some kem, h, rfl⟩

theorem providerEnvelopeAlgorithm_ok {value : Int} {op : String} {alg : EnvelopeAlgorithm} :
    providerEnvelopeAlgorithm value op = .ok alg ↔ wireEnvelopeAlgorithm value = some (some alg) := by
  simp only [providerEnvelopeAlgorithm, eq_ok]
  constructor
  · rintro ⟨_, hwire, rfl⟩
    exact hwire
  · intro h
    exact ⟨some alg, h, rfl⟩

variable {g : Generation} {ctx : RequestContext} {keyId : String} {plaintext : Bytes}
  {aad : Option Bytes} {actor : AuthenticatedActor} {env : KemEnvelope} {entropy : SealEntropy}

theorem encrypt_ok {algorithm : Int} {wire : WireCiphertextEnvelope}
    (h : (encrypt m limits g ctx ⟨keyId, algorithm, plaintext, aad⟩).exec s = (.ok wire, s')) :
    ∃ alg env, wire = ciphertextEnvelope env ∧
      (m.encrypt keyId alg plaintext aad).exec s = (.ok env, s') := by
  simp only [encrypt, exec_ok] at h
  obtain ⟨_, _, ⟨-, rfl⟩, _, _, ⟨-, rfl⟩, alg, _, ⟨-, rfl⟩, env, _, henc, rfl, rfl⟩ := h
  exact ⟨alg, env, rfl, henc⟩

theorem decrypt_fst {env : CiphertextEnvelope}
    (hauth : authorizeInGeneration g ctx .decrypt keyId = .ok actor)
    (hdecrypt : ((m.decrypt keyId env aad).exec t).1 = .ok plaintext) :
    ((decrypt m limits g ctx ⟨keyId, some (ciphertextEnvelope env), aad⟩).exec t).1 =
      if env.ciphertext.length ≤ limits.maxEncryptSize then .ok plaintext
      else .error (payloadTooLarge "decrypt" "decrypt payload exceeds configured cap") := by
  have hserved : (((m.decrypt keyId env aad).mapErr (managerStatus "decrypt")).exec t).1 =
      .ok plaintext := by
    rw [exec_mapErr, hdecrypt]
    rfl
  rw [decrypt, hauth, check_ok_bind]
  simp only [orErr]
  rw [check_ok_bind, basilCiphertextEnvelope_ciphertextEnvelope,
    check_ok_bind]
  exact fst_exec_guard hserved _

/-! An envelope names its algorithms, so the request that opens it takes the same way. -/

theorem wrapEnvelope_ok {caller : Caller} {body : WrapEnvelopeRequest}
    (h : (wrapEnvelope m C limits caller.authGen caller.gateGen caller.ctx entropy body).exec s =
      (.ok env, s')) :
    ∃ gate kem alg, wireKemAlgorithm body.kemAlgorithm = some (some kem) ∧
      wireEnvelopeAlgorithm body.envelopeAlgorithm = some (some alg) ∧
      (wrapServe m C gate entropy body kem).exec s = (.ok env, s') := by
  simp only [wrapEnvelope, wrapAuthorize, ensureSupportedEnvelopeAlgorithm, exec_ok, eq_ok,
    ensureSupportedKemAlgorithm_ok, providerEnvelopeAlgorithm_ok] at h
  obtain ⟨⟨_, kem⟩, _, ⟨⟨_, -, _, -, _, -, _, hkem, _, ⟨alg, halg, -⟩, heq⟩, rfl⟩, hserve⟩ := h
  cases heq
  exact ⟨_, kem, alg, hkem, halg, hserve⟩

theorem unwrapServe_wrapServe (hC : C.Correct) {gate gate' : Bool} {kem alg : Int}
    {supported : SupportedKem} (hkem : wireKemAlgorithm kem = some (some supported))
    (h : (wrapServe m C gate entropy ⟨keyId, kem, alg, plaintext, aad⟩ supported).exec s = (.ok env, s'))
    (hkey : match requestedMlKem kem with
      | none => SealingPair m C keyId s t
      | some level => SameCustody m keyId level s t ∧ gate' = true) :
    env.kemAlgorithm = kem ∧ env.envelopeAlgorithm = alg ∧
      env.ciphertext.length = plaintext.length + tagLen ∧
      ((unwrapServe m C gate' ⟨keyId, some env, aad⟩ env supported).exec t).1 = .ok plaintext := by
  have hlevel : requestedMlKem kem = supported.mlKemProviderAlgorithm := by
    rw [requestedMlKem, hkem]
    rfl
  rw [hlevel] at hkey
  cases hprovider : supported.mlKemProviderAlgorithm with
  | none =>
    simp only [hprovider] at hkey
    obtain ⟨priv, hpriv, hpublic⟩ := hkey
    simp only [wrapServe, hprovider, exec_ok] at h
    obtain ⟨box, _, hwrap, rfl, rfl⟩ := h
    obtain ⟨pub, hread, hseal⟩ := Manager.wrapEnvelope_ok hwrap
    have hpub : pub = C.x25519Public priv := FixedBytes.ext (hpublic _ hread)
    subst hpub
    obtain ⟨hopen, hlength⟩ := openEnvelope_sealWithParts hC hseal
    refine ⟨rfl, rfl, hlength, ?_⟩
    simp only [unwrapServe, hprovider, sealEnvelopeFromWire, envelopeFromParts_parts,
      mapError_ok]
    rw [check_ok_bind, exec_mapErr,
      Manager.unwrapEnvelope_fst hpriv hopen]
    rfl
  | some level =>
    simp only [hprovider] at hkey
    obtain ⟨hsame, rfl⟩ := hkey
    simp only [wrapServe, hprovider, exec_ok, providerEnvelopeAlgorithm_ok] at h
    obtain ⟨cipher, _, ⟨halg, rfl⟩, ⟨_, _⟩, _, hwrap, rfl, rfl⟩ := h
    obtain ⟨routed, _, _, box, hroute, hclass, htype, hselect, hread, hseal, rfl⟩ :=
      Manager.providerWrapEnvelope_ok hwrap
    obtain ⟨hboxKem, hboxAlg, hopen, hlength⟩ := MlKem.openEnvelope_sealEnvelope hC hseal
    obtain ⟨_, hunwrap⟩ := Manager.providerUnwrapEnvelope_fst hroute hclass htype hselect
      (hsame routed _ hroute hread) hboxKem hboxAlg hopen
    refine ⟨rfl, rfl, hlength, ?_⟩
    obtain ⟨_, hexec⟩ := exec_of_fst_ok hunwrap
    have halg' : providerEnvelopeAlgorithm alg "unwrap_envelope" = .ok cipher :=
      providerEnvelopeAlgorithm_ok.mpr halg
    simp only [unwrapServe, hprovider, halg']
    rw [check_ok_bind,
      exec_bind_of_ok (by rw [exec_mapErr, hexec]; rfl)]
    rfl

theorem unwrapEnvelope_fst {caller : Caller} {uid : Nat} {kem : SupportedKem}
    {alg : EnvelopeAlgorithm}
    (hauth : authorizeInGeneration caller.authGen caller.ctx .decrypt keyId = .ok actor)
    (huid : requireUnixUid actor "decrypt" = .ok uid)
    (hkem : wireKemAlgorithm env.kemAlgorithm = some (some kem))
    (halg : wireEnvelopeAlgorithm env.envelopeAlgorithm = some (some alg))
    (hserve : ((unwrapServe m C (providerGate caller.gateGen actor keyId) ⟨keyId, some env, aad⟩ env
      kem).exec t).1 = .ok plaintext) :
    ((unwrapEnvelope m C limits caller.authGen caller.gateGen caller.ctx
        ⟨keyId, some env, aad⟩).exec t).1 =
      if env.ciphertext.length ≤ limits.maxEncryptSize then .ok plaintext
      else .error (envelopeTooLarge "unwrap_envelope") := by
  have hkem' : ensureSupportedKemAlgorithm env.kemAlgorithm "unwrap_envelope" = .ok kem :=
    ensureSupportedKemAlgorithm_ok.mpr hkem
  have halg' : ensureSupportedEnvelopeAlgorithm env.envelopeAlgorithm "unwrap_envelope" = .ok () := by
    rw [ensureSupportedEnvelopeAlgorithm, providerEnvelopeAlgorithm_ok.mpr halg]
    rfl
  have hchecks : unwrapAuthorize limits caller.authGen caller.ctx ⟨keyId, some env, aad⟩ =
      ensure (env.ciphertext.length ≤ limits.maxEncryptSize) (envelopeTooLarge "unwrap_envelope") >>=
        fun _ => .ok (actor, env, kem) := by
    simp only [unwrapAuthorize, hauth, huid, orErr, hkem', halg', ok_bind]
    rfl
  rw [unwrapEnvelope, hchecks]
  by_cases hcap : env.ciphertext.length ≤ limits.maxEncryptSize
  · rw [ensure_pos hcap, ok_bind, check_ok_bind, if_pos hcap]
    exact hserve
  · rw [ensure_neg hcap, error_bind, exec_bind_of_error (exec_check _ _), if_neg hcap]

theorem encryptNatsCurve_ok {recipientXkey : String} {ciphertext : Bytes}
    (h : (encryptNatsCurve m C limits g ctx entropy ⟨keyId, recipientXkey, plaintext⟩).exec s =
      (.ok ciphertext, s')) :
    (m.encryptNatsCurve C keyId recipientXkey plaintext entropy).exec s = (.ok ciphertext, s') := by
  simp only [encryptNatsCurve, exec_ok] at h
  obtain ⟨_, _, ⟨-, rfl⟩, _, _, ⟨-, rfl⟩, hencrypt⟩ := h
  exact hencrypt

theorem decryptNatsCurve_fst {senderXkey : String} {ciphertext : Bytes}
    (hauth : authorizeInGeneration g ctx .decryptNatsCurve keyId = .ok actor)
    (hdecrypt : ((m.decryptNatsCurve C keyId senderXkey ciphertext).exec t).1 = .ok plaintext) :
    ((decryptNatsCurve m C limits g ctx ⟨keyId, senderXkey, ciphertext⟩).exec t).1 =
      if ciphertext.length ≤ limits.maxEncryptSize then .ok plaintext
      else .error (payloadTooLarge "decrypt_nats_curve" "decrypt payload exceeds configured cap") := by
  have hserved : (((m.decryptNatsCurve C keyId senderXkey ciphertext).mapErr
      (managerStatus "decrypt_nats_curve")).exec t).1 = .ok plaintext := by
    rw [exec_mapErr, hdecrypt]
    rfl
  rw [decryptNatsCurve, hauth, check_ok_bind]
  exact fst_exec_guard hserved _

end Aead

/-! ### Exchanges -/

inductive Exchange where
  | aead (keyId : String) (algorithm : Int) (aad : Option Bytes)
  | envelope (keyId : String) (kem alg : Int) (aad : Option Bytes)
  | natsCurve (sender recipient recipientXkey senderXkey : String)

namespace Exchange

def Ciphertext : Exchange → Type
  | aead .. => WireCiphertextEnvelope
  | envelope .. => KemEnvelope
  | natsCurve .. => Bytes

section Requests

variable (m : Manager σ) (C : SealCrypto) (limits : BrokerLimits) (caller : Caller)

def encrypt (entropy : SealEntropy) (plaintext : Bytes) : (x : Exchange) → Proc σ Status x.Ciphertext
  | aead keyId algorithm aad =>
      Aead.encrypt m limits caller.authGen caller.ctx ⟨keyId, algorithm, plaintext, aad⟩
  | envelope keyId kem alg aad =>
      Aead.wrapEnvelope m C limits caller.authGen caller.gateGen caller.ctx entropy
        ⟨keyId, kem, alg, plaintext, aad⟩
  | natsCurve sender _ recipientXkey _ =>
      Aead.encryptNatsCurve m C limits caller.authGen caller.ctx entropy
        ⟨sender, recipientXkey, plaintext⟩

def decrypt : (x : Exchange) → x.Ciphertext → Proc σ Status Bytes
  | aead keyId _ aad, env =>
      Aead.decrypt m limits caller.authGen caller.ctx ⟨keyId, some env, aad⟩
  | envelope keyId _ _ aad, env =>
      Aead.unwrapEnvelope m C limits caller.authGen caller.gateGen caller.ctx ⟨keyId, some env, aad⟩
  | natsCurve _ recipient _ senderXkey, ciphertext =>
      Aead.decryptNatsCurve m C limits caller.authGen caller.ctx ⟨recipient, senderXkey, ciphertext⟩

end Requests

def Admitted (caller : Caller) : Exchange → Prop
  | aead keyId .. =>
      ∃ actor, authorizeInGeneration caller.authGen caller.ctx .decrypt keyId = .ok actor
  | envelope keyId kem .. =>
      ∃ actor uid, authorizeInGeneration caller.authGen caller.ctx .decrypt keyId = .ok actor ∧
        requireUnixUid actor "decrypt" = .ok uid ∧
        (requestedMlKem kem ≠ none → providerGate caller.gateGen actor keyId = true)
  | natsCurve _ recipient .. =>
      ∃ actor, authorizeInGeneration caller.authGen caller.ctx .decryptNatsCurve recipient = .ok actor

/-- The key material read by the decryption in `t` is that of the encryption in `s`. -/
def Unchanged (m : Manager σ) (C : SealCrypto) (stores : ∀ name, AeadStore (m.backendOf name))
    (s t : σ) : Exchange → Prop
  | aead keyId .. =>
      ∀ routed, m.resolve keyId = .ok routed →
        (stores routed.entry.backend).same routed.entry.path s t
  | envelope keyId kem .. =>
      match requestedMlKem kem with
      | none => SealingPair m C keyId s t
      | some level => SameCustody m keyId level s t
  | natsCurve sender recipient recipientXkey senderXkey =>
      (∀ priv, ((m.materializeSealingPrivate sender "encrypt_nats_curve").exec s).1 = .ok priv →
        Nats.decodeXkeyPublic C senderXkey = .ok (C.x25519Public priv)) ∧
      ∃ priv, ((m.materializeSealingPrivate recipient "decrypt_nats_curve").exec t).1 = .ok priv ∧
        Nats.decodeXkeyPublic C recipientXkey = .ok (C.x25519Public priv)

def overhead (m : Manager σ) (stores : ∀ name, AeadStore (m.backendOf name)) : Exchange → Nat
  | aead keyId .. =>
      match m.resolve keyId with
      | .ok routed => (stores routed.entry.backend).overhead
      | .error _ => 0
  | envelope .. => tagLen
  | natsCurve .. => Nats.xkeyVersionV1.length + Nats.xkeyNonceLen + tagLen

def tooLarge : Exchange → Status
  | aead .. => payloadTooLarge "decrypt" "decrypt payload exceeds configured cap"
  | envelope .. => Aead.envelopeTooLarge "unwrap_envelope"
  | natsCurve .. => payloadTooLarge "decrypt_nats_curve" "decrypt payload exceeds configured cap"

theorem decrypt_encrypt_within_cap (hC : C.Correct) (stores : ∀ name, AeadStore (m.backendOf name))
    (x : Exchange) (caller caller' : Caller) (entropy : SealEntropy) (plaintext : Bytes)
    (ciphertext : x.Ciphertext)
    (hencrypted : (x.encrypt m C limits caller entropy plaintext).exec s = (.ok ciphertext, s'))
    (hkey : x.Unchanged m C stores s t) (hcaller : x.Admitted caller') :
    ((x.decrypt m C limits caller' ciphertext).exec t).1 =
      if plaintext.length + x.overhead m stores ≤ limits.maxEncryptSize then .ok plaintext
      else .error x.tooLarge := by
  cases x with
  | aead keyId algorithm aad =>
    obtain ⟨actor, hauth⟩ := hcaller
    obtain ⟨alg, _, rfl, henc⟩ := encrypt_ok hencrypted
    obtain ⟨routed, hroute, hlength, hdec⟩ := Manager.decrypt_encrypt stores henc hkey
    have hoverhead : (aead keyId algorithm aad).overhead m stores =
        (stores routed.entry.backend).overhead := by
      simp [overhead, hroute]
    rw [hoverhead, ← hlength]
    exact decrypt_fst hauth hdec
  | envelope keyId kem alg aad =>
    obtain ⟨actor, _, hauth, huid, hgate⟩ := hcaller
    obtain ⟨_, _, _, hkem, halg, hserve⟩ := wrapEnvelope_ok hencrypted
    have hread : match requestedMlKem kem with
        | none => SealingPair m C keyId s t
        | some level => SameCustody m keyId level s t ∧
            providerGate caller'.gateGen actor keyId = true := by
      simp only [Unchanged] at hkey
      cases hlevel : requestedMlKem kem with
      | none =>
        rw [hlevel] at hkey
        exact hkey
      | some level =>
        rw [hlevel] at hkey hgate
        exact ⟨hkey, hgate (Option.some_ne_none level)⟩
    obtain ⟨hsameKem, hsameAlg, hlength, hopen⟩ :=
      unwrapServe_wrapServe hC hkem hserve hread
    show ((unwrapEnvelope m C limits caller'.authGen caller'.gateGen caller'.ctx
      ⟨keyId, some ciphertext, aad⟩).exec t).1 = _
    rw [← hsameKem] at hkem
    rw [← hsameAlg] at halg
    rw [unwrapEnvelope_fst hauth huid hkem halg hopen, hlength]
    rfl
  | natsCurve sender recipient recipientXkey senderXkey =>
    obtain ⟨actor, hauth⟩ := hcaller
    obtain ⟨hsender, _, hpriv', hrecipient⟩ := hkey
    have hbox := encryptNatsCurve_ok hencrypted
    obtain ⟨priv, hpriv, hseal⟩ := Manager.encryptNatsCurve_ok hbox
    obtain ⟨hopen, hlength⟩ :=
      Nats.openNatsCurve_sealNatsCurve hC hrecipient (hsender priv hpriv) hseal
    have hdec := Manager.decryptNatsCurve_fst hpriv' hopen
    show ((decryptNatsCurve m C limits caller'.authGen caller'.ctx
      ⟨recipient, senderXkey, ciphertext⟩).exec t).1 = _
    rw [decryptNatsCurve_fst hauth hdec, hlength]
    rfl

/-! ### A data key and a sealing key in one vault

A toy cipher appends zeros as its tag, and the curve adds keys byte by byte. -/

def padTag (n : Nat) (plaintext : Bytes) : Option Bytes := some (plaintext ++ List.replicate n 0)

def dropTag (n : Nat) (ciphertext : Bytes) : Option Bytes :=
  some (ciphertext.take (ciphertext.length - n))

theorem padTag_correct (n : Nat) : CipherCorrect n (padTag n) (dropTag n) where
  decrypt_encrypt := by
    intro plaintext ciphertext h
    cases h
    simp [dropTag]
  length_encrypt := by
    intro plaintext ciphertext h
    cases h
    simp

def padCrypto : SealCrypto where
  x25519Public := id
  diffieHellman := fun a b => ⟨List.zipWith (· + ·) a.bytes b.bytes, a.length_sums b⟩
  hkdfSha256 := fun _ _ => some (.fill 32 7)
  hsalsa := id
  aeadEncrypt := fun _ _ _ _ => padTag tagLen
  aeadDecrypt := fun _ _ _ _ => dropTag tagLen
  secretboxEncrypt := fun _ _ => padTag tagLen
  secretboxDecrypt := fun _ _ => dropTag tagLen
  mlKemPublic := fun _ seed => seed.bytes
  mlKemEncapsulate := fun _ seed drawn => (drawn.bytes, seed.bytes)
  mlKemDecapsulate := fun _ seed _ => some seed.bytes
  base32Encode := bytesText
  base32Decode := fun text => some (textBytes text)

theorem padCrypto_correct : padCrypto.Correct where
  diffieHellman_comm := by
    intro a b
    apply FixedBytes.ext
    exact List.zipWith_comm_of_comm (fun x y => UInt8.add_comm x y)
  aead := fun _ _ _ _ => padTag_correct tagLen
  secretbox := fun _ _ => padTag_correct tagLen
  decapsulate := fun _ _ _ => rfl
  base32 := fun bytes => congrArg some (textBytes_bytesText bytes)

def padTransit : TransitCrypto Nat :=
  { countingCrypto with
    encrypt := fun _ plaintext _ _ => plaintext ++ List.replicate 28 0
    decrypt := fun _ ciphertext _ => dropTag 28 ciphertext }

def padEntry (keyClass : KeyClass) (keyType : KeyAlgorithm) (path : String)
    (publicPath : Option String) : KeyEntry where
  keyClass := keyClass
  keyType := some keyType
  backend := "bao"
  engine := none
  path := path
  publicPath := publicPath
  writable := false
  missing := .error
  nixCache := none
  generate := none
  sealingPin := none
  labels := ⟨[]⟩
  description := ""

def padCatalog : Catalog where
  backends := .single "bao" tokenBackend
  keys := ⟨[("data.key", padEntry .symmetric .aes256Gcm "data-key" none),
    ("seal.key", padEntry .sealing .x25519 "seal-key" (some "seal-pub"))], by decide⟩

def padPolicy : ResolvedPolicy where
  subjects := .single "svc.api" ⟨.hostProcess, false, .leaf (.processUid (.numeric 9100))⟩
  rules := [⟨["svc.api"], [⟨.encrypt, .anyKey, "r1", "op:encrypt"⟩,
    ⟨.decrypt, .anyKey, "r1", "op:decrypt"⟩,
    ⟨.encryptNatsCurve, .anyKey, "r1", "op:encrypt_nats_curve"⟩,
    ⟨.decryptNatsCurve, .anyKey, "r1", "op:decrypt_nats_curve"⟩]⟩]

def padGeneration : Generation :=
  ⟨1, padCatalog, padPolicy, ⟨⟨OrdMap.empty, OrdMap.empty⟩, OrdMap.empty⟩⟩

def padCaller : Caller := ⟨padGeneration, padGeneration, tokenContext⟩

def padManager : Manager (Vault Nat) where
  catalog := padCatalog
  instances := ["bao"]
  backendOf := fun _ => Transit.backend padTransit signerPrims
  prims := signerPrims

def padStores (name : String) : AeadStore (padManager.backendOf name) :=
  transitAead padTransit signerPrims_b64 fun _ _ _ => padTag_correct 28

def padVault : Vault Nat where
  keys := fun name => if name = "data-key" then some ⟨.aes256Gcm96, 0, [], 1⟩ else none
  kv := fun path => if path = "seal-key" ∨ path = "seal-pub" then [List.replicate 32 1] else []
  draws := 1

def padEntropy : SealEntropy := ⟨.fill 32 2, .fill 12 3, .fill 32 4, some (.fill 24 6)⟩

def padXkey : String := Nats.encodePublic padCrypto .curve (.fill 32 1)

def padLimits (cap : Nat) : BrokerLimits := ⟨cap, cap, 1⟩

def padPlaintext : Bytes := [1, 2, 3, 4]

def padTransitEnvelope : WireCiphertextEnvelope := ⟨2, 1, [], padPlaintext ++ List.replicate 28 0⟩

def padKemEnvelope : KemEnvelope :=
  ⟨4, 1, 0, List.replicate 32 2, List.replicate 12 3, padPlaintext ++ List.replicate 16 0⟩

def padBox : Bytes :=
  Nats.xkeyVersionV1 ++ List.replicate 24 6 ++ (padPlaintext ++ List.replicate 16 0)

theorem padSealing_pair : SealingPair padManager padCrypto "seal.key" padVault padVault := by
  refine ⟨.fill 32 1, rfl, ?_⟩
  intro bytes hread
  cases hread
  rfl

theorem decrypt_encrypt_within_cap_sealed :
    ((decrypt padManager padCrypto (padLimits 20) padCaller (.envelope "seal.key" 4 1 none)
        padKemEnvelope).exec padVault).1 = .ok padPlaintext :=
  have hencrypted := rfl
  decrypt_encrypt_within_cap padCrypto_correct padStores (.envelope "seal.key" 4 1 none) padCaller
    padCaller padEntropy padPlaintext padKemEnvelope hencrypted padSealing_pair
    ⟨tokenActor, 9100, by decide, rfl, fun h => absurd rfl h⟩

set_option maxRecDepth 4000 in
theorem ciphertext_over_cap :
    (((Aead.encrypt padManager (padLimits 4) padGeneration padCaller.ctx
          ⟨"data.key", 2, padPlaintext, none⟩).exec padVault).1 = .ok padTransitEnvelope ∧
      ((Aead.decrypt padManager (padLimits 4) padGeneration padCaller.ctx
          ⟨"data.key", some padTransitEnvelope, none⟩).exec padVault).1 =
        .error (payloadTooLarge "decrypt" "decrypt payload exceeds configured cap")) ∧
    (((Aead.wrapEnvelope padManager padCrypto (padLimits 4) padGeneration padGeneration
          padCaller.ctx padEntropy ⟨"seal.key", 4, 1, padPlaintext, none⟩).exec padVault).1 =
        .ok padKemEnvelope ∧
      ((Aead.unwrapEnvelope padManager padCrypto (padLimits 4) padGeneration padGeneration
          padCaller.ctx ⟨"seal.key", some padKemEnvelope, none⟩).exec padVault).1 =
        .error (Aead.envelopeTooLarge "unwrap_envelope")) ∧
    (((Aead.encryptNatsCurve padManager padCrypto (padLimits 4) padGeneration padCaller.ctx padEntropy
          ⟨"seal.key", padXkey, padPlaintext⟩).exec padVault).1 = .ok padBox ∧
      ((Aead.decryptNatsCurve padManager padCrypto (padLimits 4) padGeneration padCaller.ctx
          ⟨"seal.key", padXkey, padBox⟩).exec padVault).1 =
        .error (payloadTooLarge "decrypt_nats_curve" "decrypt payload exceeds configured cap")) := by
  decide +kernel

end Exchange

end Basil
