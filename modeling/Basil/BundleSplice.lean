import Basil.BundleText

/-!
# What an outsider's bundle can open to

Under ideal primitives a ciphertext that opens under a key the outsider does not know was sealed
by an honest operation, which the ledger records. An age slot is encrypted to a public recipient:
an outsider makes one for any key.
-/

namespace Basil.Bundle

open Proc FixedBytes UnlockMethod List

variable {env : UnlockEnv} {secrets : Set Bytes} {ledger ledger' : Ledger}

/-! ### Honest keys -/

def FromSecret (env : UnlockEnv) (secrets : Set Bytes) (key : FixedBytes 32) : Prop :=
  ∃ secret ∈ secrets, ∃ salt params, env.argon2 secret salt params = .ok key

def SlotKey (env : UnlockEnv) (secrets : Set Bytes) (ledger : Ledger) (key : FixedBytes 32) : Prop :=
  FromSecret env secrets key ∨ .tpmSealed key ∈ ledger

def UnlockMethod.Honest (env : UnlockEnv) (secrets : Set Bytes) : UnlockMethod → Prop
  | .bip39 phrase _ => ∀ secret, entropy env phrase = .ok secret → secret ∈ secrets
  | .passphrase secret _ => secret ∈ secrets
  | _ => True

def Separate (env : UnlockEnv) (secrets : Set Bytes) (ledger : Ledger) : Prop :=
  ∀ kek, .generated kek ∈ ledger → ¬ SlotKey env secrets ledger kek

def Issued (env : UnlockEnv) (ledger : Ledger) (key : FixedBytes 32) (nonce : FixedBytes 12)
    (aad plaintext : Bytes) : Prop :=
  (∃ headerAad slotId kek, .wrapped key nonce headerAad slotId kek ∈ ledger ∧
    aad = wrapAad headerAad slotId ∧ plaintext = kek.bytes) ∨
  ∃ payload, .payloadSealed key nonce aad payload ∈ ledger ∧
    plaintext = env.json.payloadToVec payload

/-- Only honest seals make ciphertexts under honest keys. -/
def Unforgeable (env : UnlockEnv) (secrets : Set Bytes) (ledger : Ledger) (ciphertext : Bytes) : Prop :=
  ∀ key nonce aad plaintext, SlotKey env secrets ledger key ∨ .generated key ∈ ledger →
    env.aeadOpen key nonce aad ciphertext = some plaintext → Issued env ledger key nonce aad plaintext

/-- A bundle that someone without the honest keys can present. Nothing is said of age files:
they are encrypted to public recipients. -/
structure Unforged (env : UnlockEnv) (secrets : Set Bytes) (ledger : Ledger) (parsed : ParsedBundle) :
    Prop where
  wraps : ∀ slot ∈ parsed.body.slots, Unforgeable env secrets ledger slot.wrap.ciphertext
  payload : Unforgeable env secrets ledger parsed.body.payload.ciphertext
  tpm : ∀ slot ∈ parsed.body.slots, ∀ publicArea privateArea pcrs nameAlg template,
    slot.params = .tpm publicArea privateArea pcrs nameAlg template →
      ∀ key, env.tpmUnseal publicArea privateArea pcrs = .ok key → .tpmSealed key ∈ ledger

def AvoidsAge (env : UnlockEnv) (methods : MethodRegistry) : Prop :=
  ∀ method ∈ methods, method.kind = .ageYubikey → method.available env = false

structure Sound (env : UnlockEnv) (secrets : Set Bytes) (ledger : Ledger) : Prop where
  wrapped : ∀ key nonce headerAad slotId kek, .wrapped key nonce headerAad slotId kek ∈ ledger →
    .generated kek ∈ ledger ∧ SlotKey env secrets ledger key
  payload : ∀ kek nonce headerAad payload, .payloadSealed kek nonce headerAad payload ∈ ledger →
    .generated kek ∈ ledger

theorem Sound.nil : Sound env secrets [] where
  wrapped := by simp
  payload := by simp

/-! ### Opening -/

theorem deriveSlotKey_ok {secret salt : Bytes} {params : Argon2Params} {key : FixedBytes 32}
    (h : deriveSlotKey env secret salt params = .ok key) : env.argon2 secret salt params = .ok key := by
  simp only [deriveSlotKey, eq_ok] at h
  obtain ⟨_, -, hkey⟩ := h
  exact hkey

theorem recoverAny_ok {parsed : ParsedBundle} {methods : MethodRegistry} {kek : MasterKek}
    (h : recoverAny env parsed methods = .ok kek) :
    ∃ slot ∈ parsed.body.slots, ∃ method ∈ methods, method.available env = true ∧
      method.recoverKek env slot parsed.headerAad = .ok kek := by
  rw [recoverAny, orErr_eq_ok] at h
  obtain ⟨slot, hslot, hrecover⟩ := exists_of_findSome?_eq_some h
  obtain ⟨method, hmethod, hmatch⟩ := exists_of_findSome?_eq_some hrecover
  split at hmatch
  · next havailable =>
    cases hkek : method.recoverKek env slot parsed.headerAad with
    | error e => simp [hkek, Except.toOption] at hmatch
    | ok kek' =>
      obtain rfl : kek' = kek := by simpa [hkek, Except.toOption] using hmatch
      exact ⟨slot, hslot, method, mem_of_mem_filter hmethod, havailable, hkek⟩
  · cases hmatch

section Opening

variable (hsound : Sound env secrets ledger) (hseparate : Separate env secrets ledger) {kek : MasterKek}
include hsound hseparate

theorem unwrap_generated {slotKey : FixedBytes 32} {wrap : KekWrap} {headerAad : Bytes} {slotId : Nat}
    (hwrap : Unforgeable env secrets ledger wrap.ciphertext) (hkey : SlotKey env secrets ledger slotKey)
    (h : unwrapWithSlotKey env slotKey wrap headerAad slotId = .ok kek) : .generated kek ∈ ledger := by
  simp only [unwrapWithSlotKey, eq_ok, ofBytes?_eq_some] at h
  obtain ⟨_, -, _, hopen, rfl⟩ := h
  rcases hwrap _ _ _ _ (.inl hkey) hopen with ⟨_, _, kek', hmem, -, hkek⟩ | ⟨payload, hmem, -⟩
  · obtain rfl : kek = kek' := ext hkek
    exact (hsound.wrapped _ _ _ _ _ hmem).1
  · exact absurd hkey (hseparate slotKey (hsound.payload _ _ _ _ hmem))

variable {parsed : ParsedBundle} (hunforged : Unforged env secrets ledger parsed)
include hunforged

theorem recoverKek_generated {method : UnlockMethod} (hhonest : method.Honest env secrets)
    (hage : method.kind ≠ .ageYubikey) {slot : Slot} (hslot : slot ∈ parsed.body.slots)
    {headerAad : Bytes}
    (h : method.recoverKek env slot headerAad = .ok kek) : .generated kek ∈ ledger := by
  have hwrap := hunforged.wraps slot hslot
  cases method with
  | ageYubikey => exact absurd rfl hage
  | bip39 =>
    simp only [recoverKek] at h
    split at h
    · simp only [bind_eq_ok] at h
      obtain ⟨secret, hsecret, slotKey, hderive, hunwrap⟩ := h
      have hkey : SlotKey env secrets ledger slotKey :=
        .inl ⟨secret, hhonest secret hsecret, _, _, deriveSlotKey_ok hderive⟩
      exact unwrap_generated hsound hseparate hwrap hkey hunwrap
    · cases h
  | passphrase secret =>
    simp only [recoverKek] at h
    split at h
    · simp only [bind_eq_ok] at h
      obtain ⟨slotKey, hderive, hunwrap⟩ := h
      have hkey : SlotKey env secrets ledger slotKey :=
        .inl ⟨secret, hhonest, _, _, deriveSlotKey_ok hderive⟩
      exact unwrap_generated hsound hseparate hwrap hkey hunwrap
    · cases h
  | tpm =>
    simp only [recoverKek] at h
    split at h
    · next hparams =>
      simp only [bind_eq_ok] at h
      obtain ⟨slotKey, hunseal, hunwrap⟩ := h
      have hkey : SlotKey env secrets ledger slotKey :=
        .inr (hunforged.tpm slot hslot _ _ _ _ _ hparams slotKey hunseal)
      exact unwrap_generated hsound hseparate hwrap hkey hunwrap
    · cases h

variable {methods : MethodRegistry} (hhonest : ∀ method ∈ methods, method.Honest env secrets)
  (hage : AvoidsAge env methods)
include hhonest hage

theorem recoverAny_generated (h : recoverAny env parsed methods = .ok kek) : .generated kek ∈ ledger := by
  obtain ⟨_, hslot, method, hmethod, havailable, hrecover⟩ := recoverAny_ok h
  refine recoverKek_generated hsound hseparate hunforged (hhonest method hmethod) ?_ hslot hrecover
  intro hkind
  rw [hage method hmethod hkind] at havailable
  cases havailable

theorem openBundle_sealed {payload : CredBundle} (h : openBundle env parsed methods = .ok payload) :
    ∃ kek nonce, .payloadSealed kek nonce parsed.headerAad payload ∈ ledger := by
  simp only [openBundle, eq_ok, decryptPayload] at h
  obtain ⟨kek, hkek, nonce, -, _, hopen, hread⟩ := h
  have hgenerated := recoverAny_generated hsound hseparate hunforged hhonest hage hkek
  rcases hunforged.payload _ _ _ _ (.inr hgenerated) hopen with
    ⟨_, _, _, hmem, -, -⟩ | ⟨payload', hmem, rfl⟩
  · exact absurd (hsound.wrapped _ _ _ _ _ hmem).2 (hseparate kek hgenerated)
  · rw [env.json.payload_read] at hread
    obtain rfl : payload' = payload := Except.ok.inj hread
    exact ⟨kek, nonce, hmem⟩

end Opening

/-! ### Sealing -/

structure Additions (env : UnlockEnv) (secrets : Set Bytes) (kek : MasterKek) (uses : List Use) :
    Prop where
  wrapped : ∀ key nonce headerAad slotId kek', .wrapped key nonce headerAad slotId kek' ∈ uses →
    kek' = kek ∧ (FromSecret env secrets key ∨ .tpmSealed key ∈ uses)
  payload : ∀ kek' nonce headerAad payload, .payloadSealed kek' nonce headerAad payload ∈ uses →
    kek' = kek

theorem Additions.nil {kek : MasterKek} : Additions env secrets kek [] where
  wrapped := by simp
  payload := by simp

theorem Additions.append {kek : MasterKek} {first second : List Use}
    (hfirst : Additions env secrets kek first) (hsecond : Additions env secrets kek second) :
    Additions env secrets kek (first ++ second) where
  wrapped := by
    intro key nonce headerAad slotId kek' hmem
    rcases mem_append.mp hmem with hmem | hmem
    · obtain ⟨hkek, hkey⟩ := hfirst.wrapped _ _ _ _ _ hmem
      exact ⟨hkek, hkey.imp_right fun h => mem_append_left _ h⟩
    · obtain ⟨hkek, hkey⟩ := hsecond.wrapped _ _ _ _ _ hmem
      exact ⟨hkek, hkey.imp_right fun h => mem_append_right _ h⟩
  payload := by
    intro kek' nonce headerAad payload hmem
    rcases mem_append.mp hmem with hmem | hmem
    · exact hfirst.payload _ _ _ _ hmem
    · exact hsecond.payload _ _ _ _ hmem

def Adds (env : UnlockEnv) (secrets : Set Bytes) (kek : MasterKek) (ledger ledger' : Ledger) : Prop :=
  ∃ uses, ledger' = ledger ++ uses ∧ Additions env secrets kek uses

section Adds

variable {kek : MasterKek}

instance : Std.Refl (Adds env secrets kek) := ⟨fun ledger => ⟨[], by simp, .nil⟩⟩

instance : IsTrans Ledger (Adds env secrets kek) where
  trans := by
    rintro ledger _ _ ⟨first, rfl, hfirst⟩ ⟨second, rfl, hsecond⟩
    exact ⟨first ++ second, by simp, hfirst.append hsecond⟩

theorem Sound.adds (hsound : Sound env secrets ledger) (hkek : .generated kek ∈ ledger)
    (hadds : Adds env secrets kek ledger ledger') : Sound env secrets ledger' := by
  obtain ⟨uses, rfl, hadds⟩ := hadds
  have hgenerated : .generated kek ∈ ledger ++ uses := mem_append_left _ hkek
  constructor
  · intro key nonce headerAad slotId kek' hmem
    rcases mem_append.mp hmem with hmem | hmem
    · obtain ⟨hold, hkey⟩ := hsound.wrapped _ _ _ _ _ hmem
      exact ⟨mem_append_left _ hold, hkey.imp_right fun h => mem_append_left _ h⟩
    · obtain ⟨rfl, hkey⟩ := hadds.wrapped _ _ _ _ _ hmem
      exact ⟨hgenerated, hkey.imp_right fun h => mem_append_right _ h⟩
  · intro kek' nonce headerAad payload hmem
    rcases mem_append.mp hmem with hmem | hmem
    · exact mem_append_left _ (hsound.payload _ _ _ _ hmem)
    · obtain rfl := hadds.payload _ _ _ _ hmem
      exact hgenerated

theorem additions_wrapped {key : FixedBytes 32} (hkey : FromSecret env secrets key)
    (nonce : FixedBytes 12) (headerAad : Bytes) (slotId : Nat) :
    Additions env secrets kek [.wrapped key nonce headerAad slotId kek] where
  wrapped := by
    intro key' nonce' headerAad' slotId' kek' hmem
    cases mem_singleton.mp hmem
    exact ⟨rfl, .inl hkey⟩
  payload := by simp

theorem additions_tpm (key : FixedBytes 32) (nonce : FixedBytes 12) (headerAad : Bytes) (slotId : Nat) :
    Additions env secrets kek [.tpmSealed key, .wrapped key nonce headerAad slotId kek] where
  wrapped := by
    intro key' nonce' headerAad' slotId' kek' hmem
    simp only [mem_cons, reduceCtorEq, Use.wrapped.injEq, not_mem_nil, or_false,
      false_or] at hmem
    obtain ⟨rfl, rfl, rfl, rfl, rfl⟩ := hmem
    exact ⟨rfl, .inr (by simp)⟩
  payload := by simp

theorem keeps_record {ε : Type} {use : Use} (h : Additions env secrets kek [use]) :
    Keeps (Adds env secrets kek) (record use : Proc Ledger ε Unit) :=
  fun _ => ⟨[use], rfl, h⟩

theorem encryptPayload_keeps (nonce : FixedBytes 12) (headerAad : Bytes) (payload : CredBundle) :
    Keeps (Adds env secrets kek) (encryptPayload env nonce kek headerAad payload) := by
  refine keeps_check_bind fun ciphertext _ => ?_
  exact keeps_bind (keeps_record ⟨by simp, by simp +contextual⟩) fun _ => keeps_pure _

theorem wrapWithSlotKey_keeps {key : FixedBytes 32} (hkey : FromSecret env secrets key)
    (nonce : FixedBytes 12) (headerAad : Bytes) (slotId : Nat) :
    Keeps (Adds env secrets kek) (wrapWithSlotKey env key nonce kek headerAad slotId) := by
  refine keeps_check_bind fun ciphertext _ => ?_
  exact keeps_bind (keeps_record (additions_wrapped hkey _ _ _)) fun _ => keeps_pure _

theorem wrapTpm_keeps (pcrs : TpmPcrSelection) (draw : WrapDraw) (headerAad : Bytes) (slotId : Nat) :
    Keeps (Adds env secrets kek) (wrapTpm env pcrs draw kek headerAad slotId) := by
  refine keeps_check_bind fun areas _ => ?_
  intro ledger
  rw [exec_bind_of_ok (exec_record _ _), snd_exec_bind_pure, wrapWithSlotKey]
  cases env.aeadSeal draw.slotKey draw.nonce (wrapAad headerAad slotId) kek.bytes with
  | none => exact ⟨[.tpmSealed draw.slotKey], rfl, ⟨by simp, by simp⟩⟩
  | some ciphertext => exact ⟨_, append_assoc .., additions_tpm _ _ _ _⟩

theorem wrapAge_keeps (recipient : String) (draw : WrapDraw) :
    Keeps (Adds env secrets kek) (wrapAge env recipient draw kek) :=
  keeps_check_bind fun _ _ => keeps_pure _

theorem wrapPassphrase_keeps {secret : Bytes} (hsecret : secret ∈ secrets) (argon2 : Argon2Params)
    (draw : WrapDraw) (headerAad : Bytes) (slotId : Nat) :
    Keeps (Adds env secrets kek)
      (wrapPassphrase env secret argon2 draw kek headerAad slotId) := by
  refine keeps_check_bind fun key hkey => ?_
  have hfrom : FromSecret env secrets key := ⟨secret, hsecret, _, _, deriveSlotKey_ok hkey⟩
  exact keeps_bind (wrapWithSlotKey_keeps hfrom _ _ _) fun _ => keeps_pure _

theorem wrapBip39_keeps {phrase : String} (hphrase : ∀ secret, entropy env phrase = .ok secret →
      secret ∈ secrets) (argon2 : Argon2Params) (draw : WrapDraw) (headerAad : Bytes) (slotId : Nat) :
    Keeps (Adds env secrets kek)
      (wrapBip39 env phrase argon2 draw kek headerAad slotId) := by
  refine keeps_check_bind fun secret hsecret => ?_
  refine keeps_check_bind fun key hkey => ?_
  have hfrom : FromSecret env secrets key :=
    ⟨secret, hphrase secret hsecret, _, _, deriveSlotKey_ok hkey⟩
  exact keeps_bind (wrapWithSlotKey_keeps hfrom _ _ _) fun _ => keeps_pure _

theorem wrapKek_keeps {method : UnlockMethod} (hhonest : method.Honest env secrets) (draw : WrapDraw)
    (headerAad : Bytes) (slotId : Nat) :
    Keeps (Adds env secrets kek) (method.wrapKek env draw kek headerAad slotId) := by
  cases method with
  | ageYubikey => exact wrapAge_keeps _ _
  | bip39 => exact wrapBip39_keeps hhonest _ _ _ _
  | passphrase => exact wrapPassphrase_keeps hhonest _ _ _ _
  | tpm => exact wrapTpm_keeps _ _ _ _

theorem rewrapKek_keeps {method : UnlockMethod} (hhonest : method.Honest env secrets) (slot : Slot)
    (draw : WrapDraw) (headerAad : Bytes) :
    Keeps (Adds env secrets kek) (method.rewrapKek env slot draw kek headerAad) := by
  unfold rewrapKek
  split
  · exact wrapAge_keeps _ _
  · exact keeps_fail _
  · exact wrapBip39_keeps hhonest _ _ _ _
  · exact keeps_fail _
  · exact wrapPassphrase_keeps hhonest _ _ _ _
  · exact keeps_fail _
  · exact wrapTpm_keeps _ _ _ _
  · exact keeps_fail _

theorem wrapSpecs_keeps {draw : SealDraw} (headerAad : Bytes) (index : Nat) {specs : List SlotSpec}
    (hhonest : ∀ spec ∈ specs, spec.method.Honest env secrets) :
    Keeps (Adds env secrets draw.kek) (wrapSpecs env draw headerAad index specs) := by
  induction specs generalizing index with
  | nil => exact keeps_pure _
  | cons spec specs ih =>
    refine keeps_check_bind fun _ _ => ?_
    have hwrap : Keeps (Adds env secrets draw.kek)
        (spec.method.wrapKek env (draw.wraps index) draw.kek headerAad index) :=
      wrapKek_keeps (hhonest spec (by simp)) _ _ _
    refine keeps_bind (keeps_mapErr _ hwrap) fun _ => ?_
    have hrest := ih (index + 1) fun spec hspec => hhonest spec (by simp [hspec])
    exact keeps_bind hrest fun _ => keeps_pure _

theorem rewrapSlots_keeps {methods : MethodRegistry}
    (hhonest : ∀ method ∈ methods, method.Honest env secrets) (draw : ResealDraw)
    (oldHeaderAad headerAad : Bytes) (index : Nat) (slots : List Slot) :
    Keeps (Adds env secrets kek)
      (rewrapSlots env draw methods oldHeaderAad headerAad kek index slots) := by
  induction slots generalizing index with
  | nil => exact keeps_pure _
  | cons slot slots ih =>
    refine keeps_check_bind fun method hmethod => ?_
    have hmem := mem_of_mem_filter (mem_of_find?_eq_some (orErr_eq_ok.mp hmethod))
    have hwrap : Keeps (Adds env secrets kek)
        (method.rewrapKek env slot (draw.wraps index) kek headerAad) :=
      rewrapKek_keeps (hhonest method hmem) _ _ _
    refine keeps_bind (keeps_mapErr _ hwrap) fun _ => ?_
    exact keeps_bind (ih (index + 1)) fun _ => keeps_pure _

end Adds

/-! ### Runs of honest operations -/

/-- An honest operation, on whatever bundle it found on disk. -/
inductive Operation where
  | sealNew (draw : SealDraw) (payload : CredBundle) (specs : List SlotSpec)
  | reseal (draw : ResealDraw) (parsed : ParsedBundle) (methods : MethodRegistry) (payload : CredBundle)
  | bumpEpoch (draw : ResealDraw) (parsed : ParsedBundle) (methods : MethodRegistry)
      (payload : CredBundle) (deposits : List DepositRecord)
  | promote (draw : ResealDraw) (parsed : ParsedBundle) (methods : MethodRegistry)
      (backendFilter contributorFilter : List String)
  | addSlot (draw : ResealDraw) (parsed : ParsedBundle) (methods : MethodRegistry) (spec : SlotSpec)

namespace Operation

def ledgerAfter (env : DepositEnv) (ledger : Ledger) : Operation → Ledger
  | sealNew draw payload specs => ((sealBundle env.toUnlockEnv draw payload specs).exec ledger).2
  | reseal draw parsed methods payload =>
      ((resealPayload env.toUnlockEnv draw parsed methods payload).exec ledger).2
  | bumpEpoch draw parsed methods payload deposits =>
      ((resealPayloadBumpEpochWithDeposits env.toUnlockEnv draw parsed methods payload deposits).exec
        ledger).2
  | promote draw parsed methods backendFilter contributorFilter =>
      ((promoteDeposits env draw parsed methods backendFilter contributorFilter).exec ledger).2
  | addSlot draw parsed methods spec =>
      ((Bundle.addSlot env.toUnlockEnv draw parsed methods spec).exec ledger).2

def input : Operation → Option ParsedBundle
  | sealNew .. => none
  | reseal _ parsed _ _ | bumpEpoch _ parsed _ _ _ | promote _ parsed _ _ _ | addSlot _ parsed _ _ =>
      some parsed

def registry : Operation → MethodRegistry
  | sealNew .. => []
  | reseal _ _ methods _ | bumpEpoch _ _ methods _ _ | promote _ _ methods _ _ | addSlot _ _ methods _ =>
      methods

def specs : Operation → List SlotSpec
  | sealNew _ _ specs => specs
  | addSlot _ _ _ spec => [spec]
  | _ => []

structure Admissible (env : DepositEnv) (secrets : Set Bytes) (ledger : Ledger) (op : Operation) :
    Prop where
  fresh : Separate env.toUnlockEnv secrets (op.ledgerAfter env ledger)
  input : ∀ parsed ∈ op.input, Unforged env.toUnlockEnv secrets ledger parsed
  registry : ∀ method ∈ op.registry, method.Honest env.toUnlockEnv secrets
  specs : ∀ spec ∈ op.specs, spec.method.Honest env.toUnlockEnv secrets

end Operation

inductive Reached (env : DepositEnv) (secrets : Set Bytes) (P : Operation → Prop) : Ledger → Prop where
  | start : Reached env secrets P []
  | step {ledger : Ledger} {op : Operation} (hreached : Reached env secrets P ledger)
      (hadmissible : op.Admissible env secrets ledger) (hop : P op) :
      Reached env secrets P (op.ledgerAfter env ledger)

section Runs

variable {env : DepositEnv}

theorem Sound.generated {env : UnlockEnv} (hsound : Sound env secrets ledger) (kek : MasterKek) :
    Sound env secrets (ledger ++ [.generated kek]) where
  wrapped := by
    intro key nonce headerAad slotId kek' hmem
    have hmem : .wrapped key nonce headerAad slotId kek' ∈ ledger := by simpa using hmem
    obtain ⟨hold, hkey⟩ := hsound.wrapped _ _ _ _ _ hmem
    exact ⟨mem_append_left _ hold, hkey.imp_right fun h => mem_append_left _ h⟩
  payload := by
    intro kek' nonce headerAad payload hmem
    have hmem : .payloadSealed kek' nonce headerAad payload ∈ ledger := by simpa using hmem
    exact mem_append_left _ (hsound.payload _ _ _ _ hmem)

theorem sealBundle_sound {env : UnlockEnv} (hsound : Sound env secrets ledger) (draw : SealDraw)
    (payload : CredBundle) {specs : List SlotSpec}
    (hspecs : ∀ spec ∈ specs, spec.method.Honest env secrets) :
    Sound env secrets ((sealBundle env draw payload specs).exec ledger).2 := by
  unfold sealBundle
  by_cases hne : specs ≠ []
  · rw [ensure_pos hne, check_ok_bind,
      exec_bind_of_ok (exec_record _ _)]
    have hkek : .generated draw.kek ∈ ledger ++ [.generated draw.kek] := by simp
    refine (hsound.generated draw.kek).adds hkek ?_
    refine keeps_bind (encryptPayload_keeps _ _ _) (fun _ => ?_) _
    exact keeps_bind (wrapSpecs_keeps _ _ hspecs) fun _ => keeps_pure _
  · rw [ensure_neg hne, exec_bind_of_error (exec_check _ _)]
    exact hsound

theorem Sound.recovered {env : UnlockEnv} {α : Type} (hsound : Sound env secrets ledger)
    {parsed : ParsedBundle} {methods : MethodRegistry} {f : MasterKek → Proc Ledger SealError α}
    (hgenerated : ∀ kek, recoverAny env parsed methods = .ok kek → .generated kek ∈ ledger)
    (hkeeps : ∀ kek, Keeps (Adds env secrets kek) (f kek)) :
    Sound env secrets ((check (recoverAny env parsed methods) >>= f).exec ledger).2 := by
  cases hkek : recoverAny env parsed methods with
  | error e =>
    exact hsound
  | ok kek =>
    exact hsound.adds (hgenerated kek hkek) (hkeeps kek ledger)

theorem bumpEpoch_sound {env : UnlockEnv} (hsound : Sound env secrets ledger) (draw : ResealDraw)
    {parsed : ParsedBundle} {methods : MethodRegistry}
    (hgenerated : ∀ kek, recoverAny env parsed methods = .ok kek → .generated kek ∈ ledger)
    (hmethods : ∀ method ∈ methods, method.Honest env secrets) (payload : CredBundle)
    (deposits : List DepositRecord) :
    Sound env secrets ((resealPayloadBumpEpochWithDeposits env draw parsed methods payload
      deposits).exec ledger).2 := by
  unfold resealPayloadBumpEpochWithDeposits
  by_cases hepoch : parsed.body.header.epoch + 1 ≤ u64Max
  · rw [ensure_pos hepoch, check_ok_bind]
    refine hsound.recovered hgenerated fun kek => ?_
    refine keeps_bind (encryptPayload_keeps _ _ _) fun _ => ?_
    exact keeps_bind (rewrapSlots_keeps hmethods _ _ _ _ _) fun _ => keeps_pure _
  · rw [ensure_neg hepoch, exec_bind_of_error (exec_check _ _)]
    exact hsound

theorem Operation.ledgerAfter_sound {op : Operation} (hsound : Sound env.toUnlockEnv secrets ledger)
    (hseparate : Separate env.toUnlockEnv secrets ledger) (hadmissible : op.Admissible env secrets ledger)
    (hage : AvoidsAge env.toUnlockEnv op.registry) :
    Sound env.toUnlockEnv secrets (op.ledgerAfter env ledger) := by
  have hgenerated (parsed : ParsedBundle) (hinput : parsed ∈ op.input) (kek : MasterKek)
      (hkek : recoverAny env.toUnlockEnv parsed op.registry = .ok kek) : .generated kek ∈ ledger :=
    recoverAny_generated hsound hseparate (hadmissible.input parsed hinput) hadmissible.registry hage hkek
  cases op with
  | sealNew draw payload specs => exact sealBundle_sound hsound draw payload hadmissible.specs
  | reseal draw parsed =>
    refine hsound.recovered (hgenerated parsed rfl) fun kek => ?_
    exact keeps_bind (encryptPayload_keeps _ _ _) fun _ => keeps_pure _
  | bumpEpoch draw parsed methods payload deposits =>
    exact bumpEpoch_sound hsound draw (hgenerated parsed rfl) hadmissible.registry payload deposits
  | promote draw parsed methods backendFilter contributorFilter =>
    show Sound _ _ ((promoteDeposits env draw parsed methods backendFilter contributorFilter).exec ledger).2
    unfold promoteDeposits
    cases hopen : openBundle env.toUnlockEnv parsed methods with
    | error e =>
      exact hsound
    | ok creds =>
      rw [check_ok_bind, snd_exec_bind_pure]
      exact bumpEpoch_sound hsound draw (hgenerated parsed rfl) hadmissible.registry _ _
  | addSlot draw parsed methods spec =>
    refine hsound.recovered (hgenerated parsed rfl) fun kek => ?_
    have hwrap : Keeps (Adds env.toUnlockEnv secrets kek) (spec.method.wrapKek env.toUnlockEnv
        (draw.wraps 0) kek parsed.headerAad (nextSlotId parsed.body.slots)) :=
      wrapKek_keeps (hadmissible.specs spec (by simp [Operation.specs])) _ _ _
    exact keeps_bind (keeps_mapErr _ hwrap) fun _ => keeps_pure _

/-- The operation opens nothing with an age identity. -/
def Operation.WithoutAge (env : DepositEnv) (op : Operation) : Prop :=
  AvoidsAge env.toUnlockEnv op.registry

theorem Separate.nil {env : UnlockEnv} : Separate env secrets [] := by
  intro kek hmem
  cases hmem

theorem Reached.sound (h : Reached env secrets (Operation.WithoutAge env) ledger) :
    Sound env.toUnlockEnv secrets ledger ∧ Separate env.toUnlockEnv secrets ledger := by
  induction h with
  | start => exact ⟨.nil, .nil⟩
  | step hreached hadmissible hop ih =>
    exact ⟨Operation.ledgerAfter_sound ih.1 ih.2 hadmissible hop, hadmissible.fresh⟩

theorem opened_payload_was_sealed (hreached : Reached env secrets (Operation.WithoutAge env) ledger)
    {parsed : ParsedBundle} (hunforged : Unforged env.toUnlockEnv secrets ledger parsed)
    {methods : MethodRegistry}
    (hhonest : ∀ method ∈ methods, method.Honest env.toUnlockEnv secrets)
    (hage : AvoidsAge env.toUnlockEnv methods) {payload : CredBundle}
    (hopen : openBundle env.toUnlockEnv parsed methods = .ok payload) :
    ∃ kek nonce, .payloadSealed kek nonce parsed.headerAad payload ∈ ledger := by
  obtain ⟨hsound, hseparate⟩ := hreached.sound
  exact openBundle_sealed hsound hseparate hunforged hhonest hage hopen

end Runs

/-! ### A run with a passphrase -/

def ciSealDraw : SealDraw where
  kek := ciKek
  bundleId := fill 16 0
  nonce := fill 12 6
  wraps _ := ⟨fill 16 0, fill 12 5, fill 32 0, [], []⟩
  now := 0

def sealedHeader : Header := ⟨formatVersion, .v1, fill 16 0, 0, 1⟩

def sealedCreds : CredBundle := ⟨1, OrdMap.empty.insert "db" (.vaultToken "old" none), ⟨none, .empty⟩⟩

noncomputable def passphraseLedger : Ledger :=
  [.generated ciKek, .payloadSealed ciKek (fill 12 6) (textOf sealedHeader) sealedCreds,
    .wrapped (fill 32 2) (fill 12 5) (textOf sealedHeader) 0 ciKek]

theorem passphraseLedger_separate : Separate textUnlock {[1]} passphraseLedger := by
  intro kek hkek hkey
  obtain rfl : kek = ciKek := by simpa [passphraseLedger] using hkek
  rcases hkey with ⟨_, _, _, _, hderived⟩ | hsealed
  · have hsame : fill 32 2 = ciKek := Except.ok.inj hderived
    exact absurd hsame (by decide)
  · simp [passphraseLedger] at hsealed

theorem reached_sealed {P : Operation → Prop} {spec : SlotSpec}
    (hstep : (Operation.sealNew ciSealDraw sealedCreds [spec]).ledgerAfter textDeposits [] = ledger)
    (hseparate : Separate textUnlock secrets ledger) (hhonest : spec.method.Honest textUnlock secrets)
    (hop : P (.sealNew ciSealDraw sealedCreds [spec])) : Reached textDeposits secrets P ledger := by
  subst hstep
  refine .step .start ⟨hseparate, by simp [Operation.input], by simp [Operation.registry], ?_⟩ hop
  intro spec' hspec
  obtain rfl : spec' = spec := by simpa [Operation.specs] using hspec
  exact hhonest

theorem passphraseLedger_reached :
    Reached textDeposits {[1]} (Operation.WithoutAge textDeposits) passphraseLedger := by
  refine @reached_sealed _ _ _ ⟨.passphrase [1] ⟨8, 1, 1⟩, ""⟩ rfl passphraseLedger_separate rfl ?_
  simp [Operation.WithoutAge, AvoidsAge, Operation.registry]

noncomputable def sealedParsed : ParsedBundle :=
  ⟨textBody sealedHeader [] (fill 12 5) (fill 12 6) sealedCreds []⟩

theorem sealedParsed_unforged : Unforged textUnlock {[1]} passphraseLedger sealedParsed where
  wraps := by
    intro slot hslot key nonce aad plaintext _ hopen
    obtain rfl : slot = textSlot (textOf sealedHeader) [] (fill 12 5) :=
      mem_singleton.mp hslot
    have htext := textOf_injective (boxOpen_eq_some.mp hopen)
    obtain ⟨rfl, rfl, rfl, rfl⟩ := htext
    exact .inl ⟨_, _, _, by simp [passphraseLedger], rfl, rfl⟩
  payload := by
    intro key nonce aad plaintext _ hopen
    have htext := textOf_injective (boxOpen_eq_some.mp hopen)
    obtain ⟨rfl, rfl, rfl, rfl⟩ := htext
    exact .inr ⟨_, by simp [passphraseLedger], rfl⟩
  tpm := by
    intro slot hslot publicArea privateArea pcrs nameAlg template hparams
    obtain rfl : slot = textSlot (textOf sealedHeader) [] (fill 12 5) :=
      mem_singleton.mp hslot
    cases hparams

theorem passphrase_payload_was_sealed :
    openBundle textUnlock sealedParsed ciMethods = .ok sealedCreds ∧
      ∃ kek nonce, .payloadSealed kek nonce sealedParsed.headerAad sealedCreds ∈ passphraseLedger := by
  have hopen : openBundle textUnlock sealedParsed ciMethods = .ok sealedCreds := openBundle_textBody
  have hhonest : ∀ method ∈ ciMethods, method.Honest textUnlock {[1]} := by
    intro method hmethod
    obtain rfl : method = .passphrase [1] ⟨8, 1, 1⟩ := mem_singleton.mp hmethod
    rfl
  have hage : AvoidsAge textUnlock ciMethods := by
    intro method hmethod hkind
    obtain rfl : method = .passphrase [1] ⟨8, 1, 1⟩ := mem_singleton.mp hmethod
    cases hkind
  exact ⟨hopen, opened_payload_was_sealed passphraseLedger_reached sealedParsed_unforged hhonest hage
    hopen⟩

/-! ### An outsider's age slot -/

def outsiderBody (env : UnlockEnv) (header : Header) (recipient : String) (ageFile : Bytes)
    (nonce : FixedBytes 12) (ciphertext : Bytes) : BundleBody where
  headerB64 := env.json.headerToVec header
  header := header
  slots := [⟨0, .ageYubikey, "", 0, .ageYubikey recipient, ⟨[], ageFile⟩⟩]
  payload := ⟨nonce.bytes, ciphertext⟩
  deposits := []

theorem openBundle_outsiderBody {env : UnlockEnv} {header : Header} {recipient : String}
    {identity ageFile ciphertext : Bytes} {kek : MasterKek} {nonce : FixedBytes 12}
    {payload : CredBundle} (hheader : env.ageHeader ageFile = .ok ())
    (hdecrypt : env.ageDecrypt identity ageFile = some (.ok kek.bytes))
    (hopen : env.aeadOpen kek nonce (env.json.headerToVec header) ciphertext =
      some (env.json.payloadToVec payload)) :
    openBundle env ⟨outsiderBody env header recipient ageFile nonce ciphertext⟩
      [.ageYubikey recipient [identity]] = .ok payload := by
  have hkek : recoverAny env ⟨outsiderBody env header recipient ageFile nonce ciphertext⟩
      [.ageYubikey recipient [identity]] = .ok kek := by
    have hrecover : recoverAge env [identity]
        ⟨0, .ageYubikey, "", 0, .ageYubikey recipient, ⟨[], ageFile⟩⟩ = .ok kek := by
      simp [recoverAge, hheader, hdecrypt, ensure, orErr]
    simp [recoverAny, outsiderBody, recoverSlot, MethodRegistry.forKind, kind,
      available, recoverKek, hrecover, Except.toOption, orErr]
  rw [openBundle, hkek, ok_bind]
  simp [decryptPayload, outsiderBody, ParsedBundle.headerAad, hopen, orErr, env.json.payload_read]

def outsiderCreds : CredBundle := ⟨1, .empty, ⟨none, .empty⟩⟩

def outsiderKek : MasterKek := fill 32 9

noncomputable def ageLedger : Ledger :=
  [.generated ciKek, .payloadSealed ciKek (fill 12 6) (textOf sealedHeader) sealedCreds]

noncomputable def outsiderAgeFile : Bytes := 1 :: textOf ("age1", outsiderKek.bytes)

noncomputable def outsiderCiphertext : Bytes :=
  textOf (outsiderKek, fill 12 0, textOf sealedHeader, textOf outsiderCreds)

noncomputable def outsiderParsed : ParsedBundle :=
  ⟨outsiderBody textUnlock sealedHeader "age1" outsiderAgeFile (fill 12 0) outsiderCiphertext⟩

theorem ageLedger_separate : Separate textUnlock ∅ ageLedger := by
  intro kek _ hkey
  rcases hkey with ⟨_, hsecret, _⟩ | hsealed
  · exact hsecret
  · simp [ageLedger] at hsealed

theorem outsiderParsed_unforged : Unforged textUnlock ∅ ageLedger outsiderParsed where
  wraps := by
    intro slot hslot key nonce aad plaintext _ hopen
    obtain rfl := mem_singleton.mp hslot
    exact absurd (boxOpen_eq_some.mp hopen) (textOf_ne_one_cons _ _)
  payload := by
    intro key nonce aad plaintext hkey hopen
    have htext := textOf_injective (boxOpen_eq_some.mp hopen)
    obtain ⟨rfl, -⟩ := htext
    rcases hkey with (⟨_, hsecret, _⟩ | hsealed) | hgenerated
    · exact absurd hsecret (Set.notMem_empty _)
    · simp [ageLedger] at hsealed
    · have hsame : outsiderKek = ciKek := by simpa [ageLedger] using hgenerated
      exact absurd hsame (by decide)
  tpm := by
    intro slot hslot publicArea privateArea pcrs nameAlg template hparams
    obtain rfl := mem_singleton.mp hslot
    cases hparams

theorem age_slot_admits_outsider :
    Reached textDeposits ∅ (fun _ => True) ageLedger ∧
      textUnlock.ageEncrypt "age1" outsiderKek.bytes [] = .ok outsiderAgeFile ∧
      textUnlock.aeadSeal outsiderKek (fill 12 0) (textOf sealedHeader)
        (textOf outsiderCreds) = some outsiderCiphertext ∧
      decode jsonTexts (textFile outsiderParsed.body) = .ok outsiderParsed ∧
      Unforged textUnlock ∅ ageLedger outsiderParsed ∧
      openBundle textUnlock outsiderParsed [.ageYubikey "age1" [[1]]] = .ok outsiderCreds ∧
      ∀ kek nonce headerAad, .payloadSealed kek nonce headerAad outsiderCreds ∉ ageLedger := by
  refine ⟨?_, rfl, rfl, ?_, outsiderParsed_unforged, ?_, ?_⟩
  · exact @reached_sealed _ _ _ ⟨.ageYubikey "age1" [[1]], ""⟩ rfl ageLedger_separate trivial trivial
  · rw [textFile, decode_encoded]
    exact checkBody_ok.mpr ⟨readText_textOf _, rfl, rfl, rfl⟩
  · refine openBundle_outsiderBody rfl ?_ (boxOpen_textOf _ _ _ _)
    simp [textUnlock, outsiderAgeFile, readText_textOf]
  · intro kek nonce headerAad hmem
    have hsame : outsiderCreds = sealedCreds := by
      simp only [ageLedger, mem_cons, reduceCtorEq, Use.payloadSealed.injEq, not_mem_nil,
        or_false, false_or] at hmem
      exact hmem.2.2.2
    have hdb := congrArg (fun creds => creds.backends.get? "db") hsame
    exact absurd hdb (by decide)

end Basil.Bundle
