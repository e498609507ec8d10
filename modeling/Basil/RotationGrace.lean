import Basil.Lib.Trace
import Basil.Secrets
import Basil.Signing
import Basil.Transit

/-!
# Signatures across rotations of a transit key

A signature is made by the latest version; `verify` names version 1 for every signature.
-/

namespace Basil.Rotation

open Signing Transit Proc Trace List

variable {κ : Type}

structure TransitSigner (C : TransitCrypto κ) (prims : Primitives) (m : Manager (Vault κ))
    (keyId : String) extends ClassicalSigner m keyId where
  transit : routed.engine = .transit
  served : m.backendOf routed.entry.backend = backend C prims

structure Sound (C : TransitCrypto κ) : Prop where
  verify_sign : ∀ ty d params message r,
    C.verify (C.keygen ty d) params message (C.sign (C.keygen ty d) params message r) = true
  verify_other : ∀ ty d d' params message r, d ≠ d' →
    C.verify (C.keygen ty d) params message (C.sign (C.keygen ty d') params message r) = false
  inverse : C.Inverse

/-! ### Runs -/

inductive Call where
  | rotate (limits : BrokerLimits) (recipes : Recipes) (g : Generation) (ctx : RequestContext)
  | sign (limits : BrokerLimits) (authGen gateGen : Generation) (ctx : RequestContext)
      (algorithm : Int) (message : Bytes)
  | verify (limits : BrokerLimits) (authGen gateGen : Generation) (ctx : RequestContext)
      (algorithm : Int) (message signature : Bytes)

inductive Reply where
  | rotated (result : Except Status Nat)
  | signed (result : Except Status Bytes)
  | verified (result : Except Status Bool)
  deriving DecidableEq

def step (m : Manager (Vault κ)) (keyId : String) (v : Vault κ) : Call → Vault κ × Reply
  | .rotate limits recipes g ctx =>
      let out := (Secrets.rotateSecret m limits recipes g ctx keyId).exec v
      (out.2, .rotated out.1)
  | .sign limits authGen gateGen ctx algorithm message =>
      let out := (sign m limits authGen gateGen ctx ⟨keyId, algorithm, message⟩).exec v
      (out.2, .signed out.1)
  | .verify limits authGen gateGen ctx algorithm message signature =>
      let out := (verify m limits authGen gateGen ctx
        ⟨keyId, algorithm, message, signature⟩).exec v
      (out.2, .verified out.1)

structure Window where
  latest : Nat
  floor : Nat
  deriving DecidableEq

def Window.after (w : Window) : Call × Reply → Window
  | (.rotate limits _ _ _, .rotated (.ok version)) => ⟨version, limits.graceFloor version⟩
  | _ => w

def window (events : List (Call × Reply)) : Window := events.foldl Window.after ⟨1, 1⟩

theorem graceFloor_le (limits : BrokerLimits) {latest : Nat} (h : 1 ≤ latest) :
    limits.graceFloor latest ≤ latest := by
  unfold BrokerLimits.graceFloor
  dsimp only
  split <;> omega

/-! ### The three requests on a transit signer -/

section Requests

variable {C : TransitCrypto κ} {prims : Primitives} {m : Manager (Vault κ)} {keyId : String}
variable {v : Vault κ} {limits : BrokerLimits} {authGen gateGen g : Generation} {ctx : RequestContext}

variable (k : TransitSigner C prims m keyId)
include k

theorem TransitSigner.engine_ne_kv2 : k.routed.engine ≠ .kv2 := by
  rw [k.transit]
  decide

theorem TransitSigner.backend : m.backend k.routed = backend C prims := k.served

theorem verify_keeps (algorithm : Int) (message signature : Bytes) :
    v.SameKeys ((verify m limits authGen gateGen ctx
      ⟨keyId, algorithm, message, signature⟩).exec v).2 := by
  cases hauth : verifyAuthorize m limits authGen ctx
      ⟨keyId, algorithm, message, signature⟩ with
  | error e =>
    rw [verify, hauth, exec_bind_of_error (exec_check _ _)]
    exact refl_of Vault.SameKeys v
  | ok admitted =>
    rw [verify_exec k.toClassicalSigner k.engine_ne_kv2 hauth, k.backend]
    exact verifyWithOptions_keeps _ _ _ _ v

theorem sign_keeps (algorithm : Int) (message : Bytes) :
    v.SameKeys ((sign m limits authGen gateGen ctx ⟨keyId, algorithm, message⟩).exec v).2 := by
  have hcases : (∃ e, (sign m limits authGen gateGen ctx ⟨keyId, algorithm, message⟩).exec v =
      (.error e, v)) ∨ _ :=
    sign_exec k.toClassicalSigner k.engine_ne_kv2 algorithm message
  rcases hcases with ⟨e, hexec⟩ | hexec
  · rw [hexec]
    exact refl_of Vault.SameKeys v
  · rw [hexec, k.backend]
    exact signWithOptions_keeps _ _ _ v

theorem rotateCrypto_exec {key : TransitKey κ} (hkey : v.keys k.routed.entry.path = some key) :
    (m.rotateCrypto limits k.routed).exec v =
      (.ok (min (key.latest + 1) u32Max),
        (v.put k.routed.entry.path (key.bump (C.keygen key.keyType v.draws))).drawn.put
          k.routed.entry.path ((key.bump (C.keygen key.keyType v.draws)).floorAt
            (limits.graceFloor (min (key.latest + 1) u32Max)))) := by
  have hbump : (mapErr ManagerError.backend
      ((backend C prims).rotate k.routed.entry.path)).exec v =
        (.ok (min (key.latest + 1) u32Max), _) := exec_mapErr_ok.mpr (rotate_exec hkey)
  have hfloor : limits.graceFloor (min (key.latest + 1) u32Max) ≤
      (key.bump (C.keygen key.keyType v.draws)).latest := by
    have hmax : 1 ≤ u32Max := by decide
    have hpos : 1 ≤ min (key.latest + 1) u32Max := by omega
    have hle := graceFloor_le limits hpos
    rw [TransitKey.latest_bump]
    omega
  have hconfigure := configureVersions_exec C prims
    (v := (v.put k.routed.entry.path (key.bump (C.keygen key.keyType v.draws))).drawn)
    (by rw [Vault.drawn_keys, Vault.put_keys_self]) hfloor
  have hset : (attempt ((backend C prims).configureVersions k.routed.entry.path
      (some (limits.graceFloor (min (key.latest + 1) u32Max))) none) :
        Proc (Vault κ) ManagerError (Except BackendError Unit)).exec
          (v.put k.routed.entry.path (key.bump (C.keygen key.keyType v.draws))).drawn =
      (.ok (.ok ()), _) := congrArg (fun out => (Except.ok out.1, out.2)) hconfigure
  rw [Manager.rotateCrypto, k.backend, exec_bind_of_ok hbump, exec_bind_of_ok hset]
  rfl

theorem rotateSecret_exec (recipes : Recipes) {key : TransitKey κ}
    (hkey : v.keys k.routed.entry.path = some key) :
    (∃ e, (Secrets.rotateSecret m limits recipes g ctx keyId).exec v = (.error e, v)) ∨
      ∃ v', (Secrets.rotateSecret m limits recipes g ctx keyId).exec v =
          (.ok (min (key.latest + 1) u32Max), v') ∧
        v'.keys k.routed.entry.path = some ((key.bump (C.keygen key.keyType v.draws)).floorAt
          (limits.graceFloor (min (key.latest + 1) u32Max))) ∧
        v'.draws = v.draws + 1 := by
  have hclass : ¬ k.routed.entry.keyClass = .value := by
    rw [k.asymmetric]
    decide
  have hengine : ¬ (k.routed.engine = .kv2 ∧ k.routed.entry.keyClass ≠ .value) := by
    rw [k.transit]
    rintro ⟨hkv, -⟩
    cases hkv
  rw [Secrets.rotateSecret]
  cases hauth : authorizeInGeneration g ctx .rotate keyId with
  | error e => exact .inl ⟨e, exec_bind_of_error rfl⟩
  | ok actor =>
    rw [check_ok_bind, Manager.rotate, exec_mapErr,
      exec_bind_of_ok (k.exec_route v),
      exec_bind_of_ok (k.exec_requireClass v (by decide))]
    -- a Nix cache key is never rotated
    by_cases hnix : k.routed.entry.nixCache = none
    · right
      refine ⟨(v.put k.routed.entry.path (key.bump (C.keygen key.keyType v.draws))).drawn.put
        k.routed.entry.path _, ?_, Vault.put_keys_self _ _ _, rfl⟩
      rw [ensure_pos hnix, check_ok_bind, ensure_pos hengine,
        check_ok_bind, if_neg hclass, rotateCrypto_exec k hkey]
      rfl
    · left
      rw [ensure_neg hnix, exec_bind_of_error (exec_check _ _)]
      exact ⟨_, rfl⟩

end Requests

/-! ### The window of a run -/

def Tracked (C : TransitCrypto κ) (path : String) (ty : TransitType) (d : Nat) (w : Window)
    (v : Vault κ) : Prop :=
  ∃ later, v.keys path = some ⟨ty, C.keygen ty d, later, w.floor⟩ ∧
    (∀ k ∈ later, ∃ d', d < d' ∧ k = C.keygen ty d') ∧
    d < v.draws ∧ w.latest = min (later.length + 1) u32Max

structure Fresh (C : TransitCrypto κ) (path : String) (ty : TransitType) (d : Nat) (v : Vault κ) :
    Prop where
  key : v.keys path = some ⟨ty, C.keygen ty d, [], 1⟩
  drawn : d < v.draws

section Runs

variable {C : TransitCrypto κ} {prims : Primitives} {m : Manager (Vault κ)} {keyId : String}
variable {ty : TransitType} {d : Nat} {v v' : Vault κ} {w : Window}

theorem Tracked.mono {path : String} (h : Tracked C path ty d w v) (hsame : v.SameKeys v') :
    Tracked C path ty d w v' := by
  obtain ⟨later, hkey, hlater, _, hlatest⟩ := h
  obtain ⟨hkeys, _⟩ := hsame
  exact ⟨later, by rw [hkeys, hkey], hlater, by omega, hlatest⟩

theorem Fresh.tracked {path : String} (h : Fresh C path ty d v) :
    Tracked C path ty d (window []) v := by
  refine ⟨[], h.key, ?_, h.drawn, rfl⟩
  intro k hk
  cases hk

theorem Tracked.newest {path : String} (h : Tracked C path ty d w v) {key : TransitKey κ}
    (hkey : v.keys path = some key) :
    ∃ d', key.newest = C.keygen ty d' ∧ (d' = d ↔ w.latest = 1) := by
  obtain ⟨later, hheld, hlater, -, hlatest⟩ := h
  rw [hheld] at hkey
  cases hkey
  have hmax : 2 ≤ u32Max := by decide
  rcases eq_nil_or_concat later with rfl | ⟨_, last, rfl⟩
  · refine ⟨d, rfl, ?_⟩
    have hone : w.latest = 1 := by
      rw [hlatest]
      rfl
    exact ⟨fun _ => hone, fun _ => rfl⟩
  · obtain ⟨d', _, hlast⟩ := hlater last (by simp)
    refine ⟨d', by simp [TransitKey.newest, hlast], ?_⟩
    have hmore : 2 ≤ w.latest := by
      rw [hlatest, length_concat]
      omega
    constructor
    · intro heq
      omega
    · intro hone
      omega

variable (k : TransitSigner C prims m keyId)

theorem tracked_rotate (h : Tracked C k.routed.entry.path ty d w v) (limits : BrokerLimits)
    (recipes : Recipes) (g : Generation) (ctx : RequestContext) :
    Tracked C k.routed.entry.path ty d
      (w.after (.rotate limits recipes g ctx, (step m keyId v (.rotate limits recipes g ctx)).2))
      (step m keyId v (.rotate limits recipes g ctx)).1 := by
  obtain ⟨later, hkey, hlater, hdraws, _⟩ := id h
  have hcases : (∃ e, (Secrets.rotateSecret m limits recipes g ctx keyId).exec v = (.error e, v)) ∨ _ :=
    rotateSecret_exec k recipes hkey
  simp only [step]
  rcases hcases with ⟨e, hexec⟩ | ⟨v', hexec, hkeys, _⟩
  · rw [hexec]
    exact h
  · rw [hexec]
    refine ⟨later ++ [C.keygen ty v.draws], hkeys, ?_, ?_, ?_⟩
    · intro k' hmem
      rcases mem_append.mp hmem with hold | hnew
      · exact hlater k' hold
      · exact ⟨v.draws, hdraws, mem_singleton.mp hnew⟩
    · show d < v'.draws
      omega
    · simp [Window.after, TransitKey.latest]

theorem tracked_step (h : Tracked C k.routed.entry.path ty d w v) (c : Call) :
    Tracked C k.routed.entry.path ty d (w.after (c, (step m keyId v c).2)) (step m keyId v c).1 := by
  cases c with
  | rotate limits recipes g ctx => exact tracked_rotate k h limits recipes g ctx
  | sign limits authGen gateGen ctx algorithm message =>
    exact h.mono (sign_keeps k algorithm message)
  | verify limits authGen gateGen ctx algorithm message signature =>
    exact h.mono (verify_keeps k algorithm message signature)

theorem tracked_run (h : Fresh C k.routed.entry.path ty d v) (calls : List Call) :
    Tracked C k.routed.entry.path ty d (window (events (step m keyId) v calls))
      (final (step m keyId) v calls) := by
  apply history (fun events s => Tracked C k.routed.entry.path ty d (window events) s)
  · intro events s c hs
    rw [window, foldl_append]
    exact tracked_step k hs c
  · exact h.tracked

section Signatures

variable {limits : BrokerLimits} {authGen gateGen : Generation} {ctx : RequestContext} {algorithm : Int}
variable {message signature : Bytes} (hb64 : prims.B64Sound) (hC : Sound C)
  (h : Tracked C k.routed.entry.path ty d w v)
include hb64 hC h

theorem signed_draw (hsigned : (step m keyId v (.sign limits authGen gateGen ctx algorithm message)).2 =
      .signed (.ok signature)) :
    ∃ d' r, (d' = d ↔ w.latest = 1) ∧
      C.ecdsaRawToDer signature (signOptionsForKey k.routed.entry.keyType) =
        .ok (C.sign (C.keygen ty d') (insertSignOptions (signOptionsForKey k.routed.entry.keyType))
          message r) := by
  have hresult : ((sign m limits authGen gateGen ctx ⟨keyId, algorithm, message⟩).exec v).1 =
      .ok signature := by
    simpa only [step, Reply.signed.injEq] using hsigned
  have hcases : (∃ e, (sign m limits authGen gateGen ctx ⟨keyId, algorithm, message⟩).exec v =
      (.error e, v)) ∨ _ :=
    sign_exec k.toClassicalSigner k.engine_ne_kv2 algorithm message
  rcases hcases with ⟨e, hexec⟩ | hexec
  · rw [hexec] at hresult
    cases hresult
  · rw [hexec, exec_mapErr, mapError_eq_ok, k.backend] at hresult
    obtain ⟨_, r, hkey, hraw⟩ :=
      signWithOptions_ok (Vault.engine_laws C prims) hb64 (Prod.ext hresult rfl)
    obtain ⟨d', hnewest, hdraw⟩ := h.newest hkey
    rw [hnewest] at hraw
    exact ⟨d', r, hdraw, EcdsaCodec.ecdsaRawToDer_ecdsaDerToRaw hC.inverse hraw⟩

theorem verified_iff {actor : AuthenticatedActor} {route : Option SignatureAlgorithm}
    (hauth : verifyAuthorize m limits authGen ctx ⟨keyId, algorithm, message, signature⟩ =
      .ok (actor, route)) {d' r : Nat}
    (hder : C.ecdsaRawToDer signature (signOptionsForKey k.routed.entry.keyType) =
      .ok (C.sign (C.keygen ty d') (insertSignOptions (signOptionsForKey k.routed.entry.keyType))
        message r)) :
    (step m keyId v (.verify limits authGen gateGen ctx algorithm message signature)).2 =
      .verified (.ok true) ↔ d' = d ∧ w.floor ≤ 1 := by
  obtain ⟨_, hkey, -, -, -⟩ := h
  have hexec : (verifyWithOptions (Vault.engine C prims) C prims k.routed.entry.path message signature
      (signOptionsForKey k.routed.entry.keyType)).exec v = _ :=
    verifyWithOptions_exec hb64 hkey hder
  have hserve : (verify m limits authGen gateGen ctx
      ⟨keyId, algorithm, message, signature⟩).exec v = _ :=
    verify_exec k.toClassicalSigner k.engine_ne_kv2 hauth
  have hcall : ((backend C prims).verifyWithOptions k.routed.entry.path message signature
      (signOptionsForKey k.routed.entry.keyType)).exec v = _ := hexec
  rw [k.backend] at hserve
  simp only [step, hserve, exec_mapErr, hcall, Reply.verified.injEq, mapError_eq_ok]
  by_cases hfloor : w.floor ≤ 1
  · by_cases hdraw : d' = d
    · subst hdraw
      simp [hfloor, hC.verify_sign]
    · simp [hfloor, hdraw, hC.verify_other _ _ _ _ _ _ (Ne.symm hdraw)]
  · simp [hfloor]

end Signatures

theorem signature_graced_iff (hb64 : prims.B64Sound) (hC : Sound C)
    (k : TransitSigner C prims m keyId) (hfresh : Fresh C k.routed.entry.path ty d v)
    (before after : List Call) (limits : BrokerLimits) (authGen gateGen : Generation)
    (ctx : RequestContext) (algorithm : Int) (message signature : Bytes)
    (hsigned : (step m keyId (final (step m keyId) v before)
      (.sign limits authGen gateGen ctx algorithm message)).2 = .signed (.ok signature))
    (limits' : BrokerLimits) (authGen' gateGen' : Generation) (ctx' : RequestContext)
    (algorithm' : Int) (actor : AuthenticatedActor) (route : Option SignatureAlgorithm)
    (hauth : verifyAuthorize m limits' authGen' ctx'
      ⟨keyId, algorithm', message, signature⟩ = .ok (actor, route)) :
    let calls := before ++ .sign limits authGen gateGen ctx algorithm message :: after
    let made := (window (events (step m keyId) v before)).latest
    let floor := (window (events (step m keyId) v calls)).floor
    ((step m keyId (final (step m keyId) v calls)
        (.verify limits' authGen' gateGen' ctx' algorithm' message signature)).2 =
          .verified (.ok true) ↔ floor ≤ made) ↔ (made = 1 ∨ made < floor) := by
  intro calls made floor
  obtain ⟨_, _, hdraw, hder⟩ := signed_draw k hb64 hC (tracked_run k hfresh before) hsigned
  rw [verified_iff k hb64 hC (tracked_run k hfresh calls) hauth hder, hdraw]
  show (made = 1 ∧ floor ≤ 1 ↔ floor ≤ made) ↔ _
  constructor
  · intro h
    by_cases hone : made = 1
    · exact .inl hone
    · right
      by_contra hlow
      have hle : floor ≤ made := by omega
      exact hone (h.mpr hle).1
  · rintro (hone | hlow)
    · rw [hone]
      simp
    · omega

end Runs

/-! ### A signer that is rotated once

Key material is the number of its draw, and a signature starts with that many zeros. -/

def countingCrypto : TransitCrypto Nat where
  uuidSimple := fun d => toString d
  keygen := fun _ d => d
  fromPkcs8 := fun _ _ => none
  publicKeyField := fun _ => ""
  sign := fun k _ message _ => List.replicate k 0 ++ 1 :: message
  verify := fun k _ message signature => decide (signature = List.replicate k 0 ++ 1 :: message)
  encrypt := fun _ plaintext _ _ => plaintext
  decrypt := fun _ ciphertext _ => some ciphertext
  derToRaw := fun _ der => some der
  rawToDer := fun _ raw => some raw

theorem countingCrypto_sound : Sound countingCrypto where
  verify_sign := by
    intro ty d params message r
    exact decide_eq_true rfl
  verify_other := by
    intro ty d d' params message r hne
    apply decide_eq_false
    intro heq
    have hlength := congrArg length heq
    simp only [countingCrypto, length_append, length_replicate, length_cons] at hlength
    omega
  inverse := by
    intro options der raw h
    cases h
    rfl

def bytesText (bytes : Bytes) : String := String.ofList (bytes.map fun b => Char.ofNat (256 + b.toNat))

def textBytes (text : String) : Bytes := text.toList.map fun c => UInt8.ofNat (c.toNat - 256)

theorem toNat_ofNat_byte (b : UInt8) : (Char.ofNat (256 + b.toNat)).toNat = 256 + b.toNat := by
  have hb := b.toNat_lt
  have hvalid : (256 + b.toNat).isValidChar := by
    left
    omega
  rw [Char.ofNat, dif_pos hvalid]
  rfl

theorem textBytes_bytesText (bytes : Bytes) : textBytes (bytesText bytes) = bytes := by
  rw [textBytes, bytesText, String.toList_ofList, map_map]
  conv_rhs => rw [← map_id bytes]
  apply map_congr_left
  intro b hb
  simp [toNat_ofNat_byte]

def signerPrims : Primitives :=
  { Primitives.refusing with b64Encode := bytesText, b64Decode := fun text => some (textBytes text) }

theorem signerPrims_b64 : signerPrims.B64Sound where
  decode_encode := fun bytes => congrArg some (textBytes_bytesText bytes)
  no_colon := by
    intro bytes hmem
    simp only [signerPrims, bytesText, String.toList_ofList, mem_map] at hmem
    obtain ⟨b, -, hb⟩ := hmem
    have hcode := toNat_ofNat_byte b
    rw [hb] at hcode
    have hcolon : (':' : Char).toNat = 58 := rfl
    omega

def tokenBackend : BackendRef := ⟨.vault, "https://127.0.0.1:8200", [], [], [], []⟩

def vaultGeneration : Generation := tokenGeneration "bao" tokenBackend "token-signer"

def tokenManager : Manager (Vault Nat) where
  catalog := tokenCatalog "bao" tokenBackend "token-signer"
  instances := ["bao"]
  backendOf := fun _ => backend countingCrypto signerPrims
  prims := signerPrims

def tokenSigner : TransitSigner countingCrypto signerPrims tokenManager "token.signer" where
  routed := ⟨tokenEntry "bao" "token-signer", tokenBackend, .transit⟩
  resolves := rfl
  asymmetric := rfl
  notMlDsa := rfl
  notMlKem := rfl
  transit := rfl
  served := rfl

def tokenVault : Vault Nat where
  keys := fun name => if name = "token-signer" then some ⟨.ed25519, 0, [], 1⟩ else none
  kv := fun _ => []
  draws := 1

theorem tokenVault_fresh : Fresh countingCrypto "token-signer" .ed25519 0 tokenVault :=
  ⟨rfl, by decide⟩

def noRecipes : Recipes :=
  ⟨fun _ => 0, fun n => .fill n 0, [], fun _ _ _ => .error (.unsupported "self-signed-tls")⟩

def tokenRotate : Call := .rotate tokenLimits noRecipes vaultGeneration tokenContext

def tokenSign : Call := .sign tokenLimits vaultGeneration vaultGeneration tokenContext 0 [42]

def tokenVerify (signature : Bytes) : Call :=
  .verify tokenLimits vaultGeneration vaultGeneration tokenContext 0 [42] signature

theorem signature_graced_version_one :
    (step tokenManager "token.signer" (final (step tokenManager "token.signer") tokenVault
        [tokenSign, tokenRotate]) (tokenVerify [1, 42])).2 = .verified (.ok true) ↔
      (window (events (step tokenManager "token.signer") tokenVault
        [tokenSign, tokenRotate])).floor ≤ 1 :=
  (signature_graced_iff signerPrims_b64 countingCrypto_sound tokenSigner tokenVault_fresh [] [tokenRotate]
    tokenLimits vaultGeneration vaultGeneration tokenContext 0 [42] [1, 42] (by decide)
    tokenLimits vaultGeneration vaultGeneration tokenContext 0 tokenActor none (by decide)).mpr (.inl rfl)

theorem rotated_signature_refused :
    let afterSign := final (step tokenManager "token.signer") tokenVault [tokenRotate, tokenSign]
    let events := events (step tokenManager "token.signer") tokenVault [tokenRotate, tokenSign]
    events.map Prod.snd = [.rotated (.ok 2), .signed (.ok [0, 1, 42])] ∧
      window events = ⟨2, 1⟩ ∧
      (step tokenManager "token.signer" afterSign (tokenVerify [0, 1, 42])).2 =
        .verified (.ok false) := by
  decide

end Basil.Rotation
