import Basil.BundleFormat
import Basil.Lib.Machine
import Basil.Lib.Proc

/-!
# Sealing and opening a bundle (`core/seal/mod.rs`, `core/seal/unlock/*.rs`)

A passphrase, recovery phrase or TPM slot binds the header bytes and its id, an age slot binds
neither. What is sealed is recorded in a ledger next to the result.
-/

namespace Basil.Bundle

open Proc

abbrev MasterKek := FixedBytes 32

/-- What sealing takes from other crates and from the TPM; drawn randomness is an argument. -/
structure UnlockEnv where
  json : Json
  aeadSeal : FixedBytes 32 → FixedBytes 12 → Bytes → Bytes → Option Bytes
  aeadOpen : FixedBytes 32 → FixedBytes 12 → Bytes → Bytes → Option Bytes
  argon2 : Bytes → Bytes → Argon2Params → Except String (FixedBytes 32)
  mnemonic : String → Option (Nat × Bytes)
  ageEncrypt : String → Bytes → Bytes → Except UnlockError Bytes
  ageHeader : Bytes → Except String Unit
  ageDecrypt : Bytes → Bytes → Option (Except String Bytes)
  tpmPresent : Bool
  tpmSeal : FixedBytes 32 → TpmPcrSelection → Bytes → Except UnlockError (Bytes × Bytes)
  tpmUnseal : Bytes → Bytes → TpmPcrSelection → Except UnlockError (FixedBytes 32)

inductive UnlockMethod where
  | ageYubikey (recipient : String) (identities : List Bytes)
  | bip39 (phrase : String) (argon2 : Argon2Params)
  | passphrase (secret : Bytes) (argon2 : Argon2Params)
  | tpm (pcrs : TpmPcrSelection)

abbrev MethodRegistry := List UnlockMethod

structure WrapDraw where
  salt : FixedBytes 16
  nonce : FixedBytes 12
  slotKey : FixedBytes 32
  age : Bytes
  tpm : Bytes

inductive Use where
  | generated (kek : MasterKek)
  | tpmSealed (slotKey : FixedBytes 32)
  | wrapped (slotKey : FixedBytes 32) (nonce : FixedBytes 12) (headerAad : Bytes) (slotId : Nat)
      (kek : MasterKek)
  | payloadSealed (kek : MasterKek) (nonce : FixedBytes 12) (headerAad : Bytes)
      (payload : CredBundle)

abbrev Ledger := List Use

def record {ε : Type} (use : Use) : Proc Ledger ε Unit :=
  ofFun fun ledger => (.ok (), ledger ++ [use])

variable (env : UnlockEnv)

/-! ### Slot keys -/

def maxMCostKib : Nat := 1048576
def minMCostKib : Nat := 8
def maxTCost : Nat := 64
def maxPCost : Nat := 64
def bip39WordCount : Nat := 24

/-- The costs come from an unauthenticated slot and are bounded first. -/
def deriveSlotKey (secret salt : Bytes) (params : Argon2Params) :
    Except UnlockError (FixedBytes 32) := do
  ensure (minMCostKib ≤ params.mCostKib ∧ params.mCostKib ≤ maxMCostKib ∧ 1 ≤ params.tCost ∧
      params.tCost ≤ maxTCost ∧ 1 ≤ params.pCost ∧ params.pCost ≤ maxPCost)
    (.paramsMismatch ("argon2 costs out of accepted band (m_cost_kib 8..=1048576, t_cost 1..=64, " ++
      "p_cost 1..=64): m=" ++ toString params.mCostKib ++ ", t=" ++ toString params.tCost ++
      ", p=" ++ toString params.pCost))
  (env.argon2 secret salt params).mapError .crypto

def wrapAad (headerAad : Bytes) (slotId : Nat) : Bytes := headerAad ++ beBytes 4 slotId

def entropy (phrase : String) : Except UnlockError Bytes := do
  let (words, entropy) ← orErr (env.mnemonic phrase) .authFailed
  ensure (words = bip39WordCount) .authFailed
  return entropy

def unwrapWithSlotKey (slotKey : FixedBytes 32) (wrap : KekWrap) (headerAad : Bytes) (slotId : Nat) :
    Except UnlockError MasterKek := do
  let nonce ← orErr (FixedBytes.ofBytes? 12 wrap.nonce) (.paramsMismatch "bad wrap nonce length")
  let kekBytes ← orErr (env.aeadOpen slotKey nonce (wrapAad headerAad slotId) wrap.ciphertext)
    .authFailed
  orErr (FixedBytes.ofBytes? 32 kekBytes) (.crypto "unwrapped KEK has wrong length")

def wrapWithSlotKey (slotKey : FixedBytes 32) (nonce : FixedBytes 12) (kek : MasterKek)
    (headerAad : Bytes) (slotId : Nat) : Proc Ledger UnlockError KekWrap := do
  let ciphertext ← check (orErr
    (env.aeadSeal slotKey nonce (wrapAad headerAad slotId) kek.bytes)
    (.crypto "crypto: aes-256-gcm seal failed"))
  record (.wrapped slotKey nonce headerAad slotId kek)
  return ⟨nonce.bytes, ciphertext⟩

namespace UnlockMethod

def kind : UnlockMethod → MethodKind
  | ageYubikey _ _ => .ageYubikey
  | bip39 _ _ => .bip39
  | passphrase _ _ => .passphrase
  | tpm _ => .tpm

def available : UnlockMethod → Bool
  | ageYubikey _ identities => !identities.isEmpty
  | bip39 phrase _ => phrase != ""
  | passphrase secret _ => !secret.isEmpty
  | tpm _ => env.tpmPresent

/-- The age file says nothing about the header it is stored under. -/
def recoverAge (identities : List Bytes) (slot : Slot) : Except UnlockError MasterKek :=
  match slot.params with
  | .ageYubikey _ => do
      ensure (identities ≠ []) (.unavailable "no age identity configured for this slot")
      (env.ageHeader slot.wrap.ciphertext).mapError fun e => .crypto ("age header: " ++ e)
      let stream ← orErr (identities.findSome? (env.ageDecrypt · slot.wrap.ciphertext)) .authFailed
      let kekBytes ← stream.mapError fun e => .crypto ("age read: " ++ e)
      orErr (FixedBytes.ofBytes? 32 kekBytes) (.crypto "decrypted KEK has wrong length")
  | _ => .error (.paramsMismatch "expected age-yubikey params")

def recoverKek (method : UnlockMethod) (slot : Slot) (headerAad : Bytes) :
    Except UnlockError MasterKek :=
  match method with
  | ageYubikey _ identities => recoverAge env identities slot
  | bip39 phrase _ =>
      match slot.params with
      | .bip39 salt argon2 => do
          let secret ← entropy env phrase
          let slotKey ← deriveSlotKey env secret salt argon2
          unwrapWithSlotKey env slotKey slot.wrap headerAad slot.slotId
      | _ => .error (.paramsMismatch "expected bip39 params")
  | passphrase secret _ =>
      match slot.params with
      | .passphrase salt argon2 => do
          let slotKey ← deriveSlotKey env secret salt argon2
          unwrapWithSlotKey env slotKey slot.wrap headerAad slot.slotId
      | _ => .error (.paramsMismatch "expected passphrase params")
  | tpm _ =>
      match slot.params with
      | .tpm publicArea privateArea pcrs _ _ => do
          let slotKey ← env.tpmUnseal publicArea privateArea pcrs
          unwrapWithSlotKey env slotKey slot.wrap headerAad slot.slotId
      | _ => .error (.paramsMismatch "expected tpm params")

def wrapAge (recipient : String) (draw : WrapDraw) (kek : MasterKek) :
    Proc Ledger UnlockError (MethodParams × KekWrap) := do
  let ciphertext ← check (env.ageEncrypt recipient kek.bytes draw.age)
  return (.ageYubikey recipient, ⟨[], ciphertext⟩)

def wrapTpm (pcrs : TpmPcrSelection) (draw : WrapDraw) (kek : MasterKek) (headerAad : Bytes)
    (slotId : Nat) : Proc Ledger UnlockError (MethodParams × KekWrap) := do
  let (publicArea, privateArea) ← check (env.tpmSeal draw.slotKey pcrs draw.tpm)
  record (.tpmSealed draw.slotKey)
  let wrap ← wrapWithSlotKey env draw.slotKey draw.nonce kek headerAad slotId
  return (.tpm publicArea privateArea pcrs "sha256" "ecc-p256-srk-v1", wrap)

def wrapBip39 (phrase : String) (argon2 : Argon2Params) (draw : WrapDraw) (kek : MasterKek)
    (headerAad : Bytes) (slotId : Nat) : Proc Ledger UnlockError (MethodParams × KekWrap) := do
  let secret ← check (entropy env phrase)
  let slotKey ← check (deriveSlotKey env secret draw.salt.bytes argon2)
  let wrap ← wrapWithSlotKey env slotKey draw.nonce kek headerAad slotId
  return (.bip39 draw.salt.bytes argon2, wrap)

def wrapPassphrase (secret : Bytes) (argon2 : Argon2Params) (draw : WrapDraw) (kek : MasterKek)
    (headerAad : Bytes) (slotId : Nat) : Proc Ledger UnlockError (MethodParams × KekWrap) := do
  let slotKey ← check (deriveSlotKey env secret draw.salt.bytes argon2)
  let wrap ← wrapWithSlotKey env slotKey draw.nonce kek headerAad slotId
  return (.passphrase draw.salt.bytes argon2, wrap)

def wrapKek (method : UnlockMethod) (draw : WrapDraw) (kek : MasterKek) (headerAad : Bytes)
    (slotId : Nat) : Proc Ledger UnlockError (MethodParams × KekWrap) :=
  match method with
  | ageYubikey recipient _ => wrapAge env recipient draw kek
  | bip39 phrase argon2 => wrapBip39 env phrase argon2 draw kek headerAad slotId
  | passphrase secret argon2 => wrapPassphrase env secret argon2 draw kek headerAad slotId
  | tpm pcrs => wrapTpm env pcrs draw kek headerAad slotId

def rewrapKek (method : UnlockMethod) (slot : Slot) (draw : WrapDraw) (kek : MasterKek)
    (headerAad : Bytes) : Proc Ledger UnlockError (MethodParams × KekWrap) :=
  match method, slot.params with
  | ageYubikey _ _, .ageYubikey recipient => wrapAge env recipient draw kek
  | ageYubikey _ _, _ => fail (.paramsMismatch "expected age-yubikey params")
  | bip39 phrase _, .bip39 _ argon2 =>
      wrapBip39 env phrase argon2 draw kek headerAad slot.slotId
  | bip39 _ _, _ => fail (.paramsMismatch "expected bip39 params")
  | passphrase secret _, .passphrase _ argon2 =>
      wrapPassphrase env secret argon2 draw kek headerAad slot.slotId
  | passphrase _ _, _ => fail (.paramsMismatch "expected passphrase params")
  | tpm _, .tpm _ _ pcrs _ _ => wrapTpm env pcrs draw kek headerAad slot.slotId
  | tpm _, _ => fail (.paramsMismatch "expected tpm params")

end UnlockMethod

def MethodRegistry.forKind (methods : MethodRegistry) (kind : MethodKind) : List UnlockMethod :=
  methods.filter fun method => method.kind = kind

/-! ### Payload -/

def encryptPayload (nonce : FixedBytes 12) (kek : MasterKek) (headerAad : Bytes)
    (payload : CredBundle) : Proc Ledger SealError SealedPayload := do
  let ciphertext ← check (orErr
    (env.aeadSeal kek nonce headerAad (env.json.payloadToVec payload))
    (.crypto "aes-256-gcm seal failed"))
  record (.payloadSealed kek nonce headerAad payload)
  return ⟨nonce.bytes, ciphertext⟩

def decryptPayload (kek : MasterKek) (headerAad : Bytes) (payload : SealedPayload) :
    Except SealError CredBundle := do
  let nonce ← orErr (FixedBytes.ofBytes? 12 payload.nonce) (.format "bad payload nonce length")
  let plaintext ← orErr (env.aeadOpen kek nonce headerAad payload.ciphertext) .authFailed
  (env.json.payloadFromSlice plaintext).mapError .payload

/-! ### Opening -/

def recoverSlot (methods : MethodRegistry) (headerAad : Bytes) (slot : Slot) : Option MasterKek :=
  (methods.forKind slot.method).findSome? fun method =>
    if method.available env then (method.recoverKek env slot headerAad).toOption else none

def recoverAny (parsed : ParsedBundle) (methods : MethodRegistry) : Except SealError MasterKek :=
  orErr (parsed.body.slots.findSome? (recoverSlot env methods parsed.headerAad)) .noSlotOpened

/-- The first key that any slot gives must open the payload. -/
def openBundle (parsed : ParsedBundle) (methods : MethodRegistry) : Except SealError CredBundle := do
  let kek ← recoverAny env parsed methods
  decryptPayload env kek parsed.headerAad parsed.body.payload

/-! ### Sealing -/

structure SlotSpec where
  method : UnlockMethod
  label : String

structure SealDraw where
  kek : MasterKek
  bundleId : FixedBytes 16
  nonce : FixedBytes 12
  wraps : Nat → WrapDraw
  now : Nat

def wrapSpecs (draw : SealDraw) (headerAad : Bytes) :
    Nat → List SlotSpec → Proc Ledger SealError (List Slot)
  | _, [] => pure []
  | index, spec :: specs => do
      check (ensure (index ≤ u32Max) (.format "too many slots"))
      let (params, wrap) ←
        (spec.method.wrapKek env (draw.wraps index) draw.kek headerAad index).mapErr .unlock
      let slots ← wrapSpecs draw headerAad (index + 1) specs
      return ⟨index, spec.method.kind, spec.label, draw.now, params, wrap⟩ :: slots

def sealBundle (draw : SealDraw) (payload : CredBundle) (specs : List SlotSpec) :
    Proc Ledger SealError Bytes := do
  check (ensure (specs ≠ []) .lastSlot)
  record (.generated draw.kek)
  let header : Header := ⟨formatVersion, .v1, draw.bundleId, draw.now, 1⟩
  let headerAad := env.json.headerToVec header
  let sealedPayload ← encryptPayload env draw.nonce draw.kek headerAad payload
  let slots ← wrapSpecs env draw headerAad 0 specs
  return encode env.json header headerAad slots sealedPayload

/-! ### Resealing -/

structure ResealDraw where
  nonce : FixedBytes 12
  wraps : Nat → WrapDraw
  now : Nat

def resealPayload (draw : ResealDraw) (parsed : ParsedBundle) (methods : MethodRegistry)
    (newPayload : CredBundle) : Proc Ledger SealError Bytes := do
  let kek ← check (recoverAny env parsed methods)
  let sealedPayload ← encryptPayload env draw.nonce kek parsed.headerAad newPayload
  return encodeWithDeposits env.json parsed.body.header parsed.headerAad parsed.body.slots
    sealedPayload parsed.body.deposits

def matchedMethod (methods : MethodRegistry) (headerAad : Bytes) (kek : MasterKek) (slot : Slot) :
    Option UnlockMethod :=
  (methods.forKind slot.method).find? fun method =>
    method.available env && (method.recoverKek env slot headerAad).toOption == some kek

def rewrapSlots (draw : ResealDraw) (methods : MethodRegistry) (oldHeaderAad headerAad : Bytes)
    (kek : MasterKek) : Nat → List Slot → Proc Ledger SealError (List Slot)
  | _, [] => pure []
  | index, slot :: slots => do
      let method ← check (orErr (matchedMethod env methods oldHeaderAad kek slot) .noSlotOpened)
      let (params, wrap) ←
        (method.rewrapKek env slot (draw.wraps index) kek headerAad).mapErr .unlock
      let rest ← rewrapSlots draw methods oldHeaderAad headerAad kek (index + 1) slots
      return { slot with params := params, wrap := wrap } :: rest

def resealPayloadBumpEpochWithDeposits (draw : ResealDraw) (parsed : ParsedBundle)
    (methods : MethodRegistry) (newPayload : CredBundle) (deposits : List DepositRecord) :
    Proc Ledger SealError Bytes := do
  check (ensure (parsed.body.header.epoch + 1 ≤ u64Max) (.format "bundle epoch overflow"))
  let header := { parsed.body.header with epoch := parsed.body.header.epoch + 1 }
  let headerAad := env.json.headerToVec header
  let kek ← check (recoverAny env parsed methods)
  let sealedPayload ← encryptPayload env draw.nonce kek headerAad newPayload
  let slots ← rewrapSlots env draw methods parsed.headerAad headerAad kek 0 parsed.body.slots
  return encodeWithDeposits env.json header headerAad slots sealedPayload deposits

/-! ### Slots -/

def nextSlotId (slots : List Slot) : Nat :=
  match (slots.map Slot.slotId).max? with
  | none => 0
  | some greatest => min (greatest + 1) u32Max

def addSlot (draw : ResealDraw) (parsed : ParsedBundle) (methods : MethodRegistry)
    (spec : SlotSpec) : Proc Ledger SealError Bytes := do
  let kek ← check (recoverAny env parsed methods)
  let slotId := nextSlotId parsed.body.slots
  let (params, wrap) ←
    (spec.method.wrapKek env (draw.wraps 0) kek parsed.headerAad slotId).mapErr .unlock
  return encodeWithDeposits env.json parsed.body.header parsed.headerAad
    (parsed.body.slots ++ [⟨slotId, spec.method.kind, spec.label, draw.now, params, wrap⟩])
    parsed.body.payload parsed.body.deposits

def removeSlot (parsed : ParsedBundle) (slotId : Nat) : Except SealError Bytes := do
  ensure (1 < parsed.body.slots.length) .lastSlot
  ensure ((parsed.body.slots.any fun slot => slot.slotId == slotId) = true) (.slotNotFound slotId)
  return encodeWithDeposits env.json parsed.body.header parsed.headerAad
    (parsed.body.slots.filter fun slot => slot.slotId != slotId) parsed.body.payload
    parsed.body.deposits

/-! ### What a seal leaves -/

variable {env}

@[simp] theorem exec_record {ε : Type} (use : Use) (ledger : Ledger) :
    (record use : Proc Ledger ε Unit).exec ledger = (.ok (), ledger ++ [use]) := rfl

variable {payload : CredBundle} {ledger ledger' : Ledger}

theorem encryptPayload_ok {nonce : FixedBytes 12} {kek : MasterKek} {headerAad : Bytes}
    {sealedPayload : SealedPayload}
    (h : (encryptPayload env nonce kek headerAad payload).exec ledger = (.ok sealedPayload, ledger')) :
    ∃ ciphertext, env.aeadSeal kek nonce headerAad (env.json.payloadToVec payload) = some ciphertext ∧
      sealedPayload = ⟨nonce.bytes, ciphertext⟩ ∧
      ledger' = ledger ++ [.payloadSealed kek nonce headerAad payload] := by
  simp only [encryptPayload, exec_ok, orErr_eq_ok, exec_record] at h
  obtain ⟨ciphertext, _, ⟨hseal, rfl⟩, _, _, ⟨-, rfl⟩, rfl, rfl⟩ := h
  exact ⟨ciphertext, hseal, rfl, rfl⟩

theorem resealPayload_ok {draw : ResealDraw} {parsed : ParsedBundle} {methods : MethodRegistry}
    {file : Bytes}
    (h : (resealPayload env draw parsed methods payload).exec ledger = (.ok file, ledger')) :
    ∃ kek ciphertext, recoverAny env parsed methods = .ok kek ∧
      env.aeadSeal kek draw.nonce parsed.headerAad (env.json.payloadToVec payload) = some ciphertext ∧
      file = encodeWithDeposits env.json parsed.body.header parsed.headerAad parsed.body.slots
        ⟨draw.nonce.bytes, ciphertext⟩ parsed.body.deposits := by
  simp only [resealPayload, exec_ok] at h
  obtain ⟨kek, _, ⟨hkek, rfl⟩, _, _, hpayload, rfl, -⟩ := h
  obtain ⟨ciphertext, hseal, rfl, -⟩ := encryptPayload_ok hpayload
  exact ⟨kek, ciphertext, hkek, hseal, rfl⟩

theorem resealPayloadBumpEpochWithDeposits_ok {draw : ResealDraw} {parsed : ParsedBundle}
    {methods : MethodRegistry} {deposits : List DepositRecord} {file : Bytes}
    (h : (resealPayloadBumpEpochWithDeposits env draw parsed methods payload deposits).exec ledger =
      (.ok file, ledger')) :
    let header := { parsed.body.header with epoch := parsed.body.header.epoch + 1 }
    ∃ kek ciphertext slots, recoverAny env parsed methods = .ok kek ∧
      env.aeadSeal kek draw.nonce (env.json.headerToVec header) (env.json.payloadToVec payload) =
        some ciphertext ∧
      file = encodeWithDeposits env.json header (env.json.headerToVec header) slots
        ⟨draw.nonce.bytes, ciphertext⟩ deposits := by
  simp only [resealPayloadBumpEpochWithDeposits, exec_ok, ensure_eq_ok] at h
  obtain ⟨_, _, ⟨-, rfl⟩, kek, _, ⟨hkek, rfl⟩, _, _, hpayload, slots, _, -, rfl, -⟩ := h
  obtain ⟨ciphertext, hseal, rfl, -⟩ := encryptPayload_ok hpayload
  exact ⟨kek, ciphertext, slots, hkek, hseal, rfl⟩

end Basil.Bundle
