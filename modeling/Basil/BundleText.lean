import Basil.Deposit
import Mathlib.Data.Countable.Basic
import Mathlib.Logic.Equiv.List
import Mathlib.Tactic.DeriveCountable

/-!
# Texts for the stored values

A box whose ciphertext is the text of everything that went into it is an ideal one.
-/

namespace Basil

open FixedBytes List

instance countableUInt8 : Countable UInt8 :=
  Function.Injective.countable (f := UInt8.toNat) fun _ _ => UInt8.toNat_inj.mp

instance countableChar : Countable Char :=
  Function.Injective.countable (f := Char.toNat) fun _ _ => Char.toNat_inj.mp

instance countableString : Countable String :=
  Function.Injective.countable (f := String.toList) fun _ _ => String.toList_inj.mp

instance {n : Nat} : Countable (FixedBytes n) := by
  refine Function.Injective.countable (β := Bytes) (f := bytes) ?_
  rintro ⟨a, _⟩ ⟨b, _⟩ rfl
  rfl

instance {κ υ : Type} [LinearOrder κ] [Countable κ] [Countable υ] : Countable (OrdMap κ υ) := by
  refine Function.Injective.countable (f := OrdMap.entries) ?_
  rintro ⟨a, _⟩ ⟨b, _⟩ rfl
  rfl

namespace Bundle

deriving instance Countable for ContainerId, AeadId, Suite, Header
deriving instance Countable for Argon2Params, TpmPcrSelection, MethodParams, MethodKind, KekWrap, Slot
deriving instance Countable for SealedPayload, DepositSealedCred, DepositRecord, BundleBody
deriving instance Countable for BackendCred, DepositContributor, DepositMaterial, CredBundle

instance countableAge : Countable (String × Bytes) := inferInstance

instance countableBox : Countable (FixedBytes 32 × FixedBytes 12 × Bytes × Bytes) := inferInstance

instance countableSealed : Countable (MasterKek × FixedBytes 12 × Bytes × Bytes) := countableBox

deriving instance Countable for Signed, DepositContext

section Texts

variable {α : Type} [Countable α]

noncomputable def textOf (a : α) : Bytes := List.replicate ((exists_injective_nat α).choose a) 0

theorem textOf_injective : Function.Injective (textOf (α := α)) := by
  intro a b h
  have hlength := congrArg length h
  rw [textOf, textOf, length_replicate, length_replicate] at hlength
  exact (exists_injective_nat α).choose_spec hlength

open scoped Classical in
noncomputable def readText (bytes : Bytes) : Except String α :=
  if h : ∃ a, textOf a = bytes then .ok h.choose else .error "not a text"

theorem readText_textOf (a : α) : readText (textOf a) = .ok a := by
  have h : ∃ b, textOf b = textOf a := ⟨a, rfl⟩
  rw [readText, dif_pos h, textOf_injective h.choose_spec]

theorem textOf_ne_one_cons (a : α) (rest : Bytes) : 1 :: rest ≠ textOf a := by
  intro h
  have hmem : (1 : UInt8) ∈ textOf a := h ▸ mem_cons_self
  exact absurd (eq_of_mem_replicate hmem) (by decide)

theorem textOf_of_readText {bytes : Bytes} {a : α} (h : readText bytes = .ok a) :
    textOf a = bytes := by
  unfold readText at h
  split at h
  · next hexists =>
    cases h
    exact hexists.choose_spec
  · cases h

end Texts

noncomputable def jsonTexts : Json where
  headerToVec := textOf
  headerFromSlice := readText
  bodyToVec := textOf
  bodyFromSlice := readText
  payloadToVec := textOf
  payloadFromSlice := readText
  credToVec := textOf
  credFromSlice := readText
  signedToVec := textOf
  contextToVec := textOf
  header_read := readText_textOf
  body_read := readText_textOf
  payload_read := readText_textOf
  cred_read := readText_textOf
  signed_injective := textOf_injective
  context_injective := textOf_injective

/-! ### Ideal boxes -/

noncomputable def boxSeal (key : FixedBytes 32) (nonce : FixedBytes 12) (aad plaintext : Bytes) :
    Option Bytes :=
  some (textOf (key, nonce, aad, plaintext))

noncomputable def boxOpen (key : FixedBytes 32) (nonce : FixedBytes 12) (aad ciphertext : Bytes) :
    Option Bytes :=
  match readText (α := FixedBytes 32 × FixedBytes 12 × Bytes × Bytes) ciphertext with
  | .ok (key', nonce', aad', plaintext) =>
      if key' = key ∧ nonce' = nonce ∧ aad' = aad then some plaintext else none
  | .error _ => none

theorem boxOpen_eq_some {key : FixedBytes 32} {nonce : FixedBytes 12}
    {aad ciphertext plaintext : Bytes} :
    boxOpen key nonce aad ciphertext = some plaintext ↔
      ciphertext = textOf (key, nonce, aad, plaintext) := by
  constructor
  · intro h
    unfold boxOpen at h
    split at h
    · next heq =>
      split at h
      · next hsame =>
        obtain ⟨rfl, rfl, rfl⟩ := hsame
        cases h
        exact (textOf_of_readText heq).symm
      · cases h
    · cases h
  · rintro rfl
    simp [boxOpen, readText_textOf]

@[simp] theorem boxOpen_textOf (key : FixedBytes 32) (nonce : FixedBytes 12) (aad plaintext : Bytes) :
    boxOpen key nonce aad (textOf (key, nonce, aad, plaintext)) = some plaintext :=
  boxOpen_eq_some.mpr rfl

noncomputable def textUnlock : UnlockEnv where
  json := jsonTexts
  aeadSeal := boxSeal
  aeadOpen := boxOpen
  argon2 _ _ _ := .ok (fill 32 2)
  mnemonic _ := none
  ageEncrypt recipient plaintext _ := .ok (1 :: textOf (recipient, plaintext))
  ageHeader _ := .ok ()
  ageDecrypt _ ciphertext :=
    match readText (α := String × Bytes) ciphertext.tail with
    | .ok (_, plaintext) => some (.ok plaintext)
    | .error _ => none
  tpmPresent := false
  tpmSeal _ _ _ := .error (.unavailable "tpm")
  tpmUnseal _ _ _ := .error (.unavailable "tpm")

noncomputable def textBox : SealCrypto where
  x25519Public := id
  diffieHellman _ _ := fill 32 1
  hkdfSha256 _ _ := some (fill 32 3)
  hsalsa := id
  aeadEncrypt _ := boxSeal
  aeadDecrypt _ := boxOpen
  secretboxEncrypt _ _ _ := none
  secretboxDecrypt _ _ _ := none
  mlKemPublic _ _ := []
  mlKemEncapsulate _ _ _ := ([], [])
  mlKemDecapsulate _ _ _ := none
  base32Encode _ := ""
  base32Decode _ := none

noncomputable def textDeposits : DepositEnv where
  toUnlockEnv := textUnlock
  crypto := textBox
  ed25519Public := id
  ed25519Sign seed _ := ⟨seed.bytes ++ seed.bytes, by simp [seed.length_eq]⟩
  ed25519Verify key _ signature := decide (signature.bytes = key.bytes ++ key.bytes)
  b64Encode _ := ""
  b64Decode token := some (List.replicate token.length 7)
  sha256 _ := []
  gcpIdentity _ := none

/-! ### Bundles with a passphrase slot -/

def ciMethods : MethodRegistry := [.passphrase [1] ⟨8, 1, 1⟩]

def ciKek : MasterKek := fill 32 1

noncomputable def textSlot (headerAad salt : Bytes) (nonce : FixedBytes 12) : Slot where
  slotId := 0
  method := .passphrase
  label := ""
  createdUnix := 0
  params := .passphrase salt ⟨8, 1, 1⟩
  wrap := ⟨nonce.bytes, textOf (fill 32 2, nonce, wrapAad headerAad 0, ciKek.bytes)⟩

noncomputable def textBody (header : Header) (salt : Bytes) (wrapNonce nonce : FixedBytes 12)
    (payload : CredBundle) (deposits : List DepositRecord) : BundleBody where
  headerB64 := textOf header
  header := header
  slots := [textSlot (textOf header) salt wrapNonce]
  payload := ⟨nonce.bytes, textOf (ciKek, nonce, textOf header, textOf payload)⟩
  deposits := deposits

variable {header : Header} {salt : Bytes} {wrapNonce nonce : FixedBytes 12} {payload : CredBundle}
  {deposits : List DepositRecord}

theorem recoverKek_textSlot (headerAad : Bytes) :
    (UnlockMethod.passphrase [1] ⟨8, 1, 1⟩).recoverKek textUnlock (textSlot headerAad salt wrapNonce)
      headerAad = .ok ciKek := by
  have hderive : deriveSlotKey textUnlock [1] salt ⟨8, 1, 1⟩ = .ok (fill 32 2) := rfl
  simp only [UnlockMethod.recoverKek, textSlot, hderive, ok_bind, unwrapWithSlotKey,
    ofBytes?_bytes, orErr]
  have hbox : textUnlock.aeadOpen = boxOpen := rfl
  simp [hbox]

theorem recoverAny_textBody :
    recoverAny textUnlock ⟨textBody header salt wrapNonce nonce payload deposits⟩ ciMethods =
      .ok ciKek := by
  have hslot : recoverSlot textUnlock ciMethods (textOf header)
      (textSlot (textOf header) salt wrapNonce) = some ciKek := by
    show findSome? _ [UnlockMethod.passphrase [1] ⟨8, 1, 1⟩] = some ciKek
    simp only [findSome?_cons, recoverKek_textSlot]
    rfl
  simp only [recoverAny, textBody, ParsedBundle.headerAad, findSome?_cons, hslot]
  rfl

theorem openBundle_textBody :
    openBundle textUnlock ⟨textBody header salt wrapNonce nonce payload deposits⟩ ciMethods =
      .ok payload := by
  rw [openBundle, recoverAny_textBody, ok_bind]
  have hbox : textUnlock.aeadOpen = boxOpen := rfl
  have hread : textUnlock.json.payloadFromSlice = readText := rfl
  simp [decryptPayload, textBody, ParsedBundle.headerAad, hbox, orErr, hread, readText_textOf]

noncomputable def textFile (body : BundleBody) : Bytes :=
  encodeWithDeposits jsonTexts body.header body.headerB64 body.slots body.payload body.deposits

theorem decode_textFile (hversion : header.formatVersion = formatVersion)
    (hsuite : header.suite = .v1) :
    decode jsonTexts (textFile (textBody header salt wrapNonce nonce payload deposits)) =
      .ok ⟨textBody header salt wrapNonce nonce payload deposits⟩ := by
  rw [textFile, decode_encoded]
  exact checkBody_ok.mpr ⟨readText_textOf _, hversion, hsuite, rfl⟩

end Bundle

end Basil
