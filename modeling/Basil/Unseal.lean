import Basil.Aead
import Basil.CoseSealed

/-!
# Opening a sealed message (`core/manager.rs`, `core/catalog/schema.rs`)

The external data is checked before the private key is read.
-/

namespace Basil

def SealingPin.externalAadAllowed (pin : SealingPin) (aad : Bytes) : Bool :=
  pin.externalAad.isEmpty || pin.externalAad.any fun allowed => Cbor.textBytes allowed == aad

namespace PinnedParties

def slot : Option String → Except Cose.ProfileError (Option Bytes)
  | none => .ok none
  | some identity => do
      let bytes ← Cose.partyIdentityFromBytes (Cbor.textBytes identity)
      return some bytes

def toKdfParties (parties : PinnedParties) : Except Cose.ProfileError Cose.KdfParties := do
  let partyU ← slot parties.partyU
  let partyV ← slot parties.partyV
  return ⟨partyU, partyV⟩

end PinnedParties

def pinnedContext (keyId : String) (pin : Option SealingPin) (externalAad : Bytes) :
    Except ManagerError (Option Cose.KdfParties) :=
  match pin with
  | none => .ok none
  | some pin => do
      ensure (pin.externalAadAllowed externalAad = true) (.unsealContextNotPermitted keyId)
      match pin.parties with
      | none => return none
      | some parties =>
          let expected ← parties.toKdfParties.mapError fun _ => .sealingMalformed
          return some expected

/-- A party mismatch is a refusal and not a failed decryption. -/
def unsealError (keyId : String) : Cose.OpenError → ManagerError
  | .partyMismatch => .unsealContextNotPermitted keyId
  | .openFailed => .sealingOpenFailed
  | _ => .sealingMalformed

namespace Manager

variable {σ : Type} (m : Manager σ) (env : Cose.CoseEnv)

def unsealCose (keyId : String) (coseEncrypt externalAad : Bytes) : Proc σ ManagerError Bytes := do
  let routed ← m.route keyId
  let expectedParties ← Proc.check (pinnedContext keyId routed.entry.sealingPin externalAad)
  let priv ← m.materializeSealingPrivate keyId "unseal_cose"
  let coseKeyId ← Proc.check (orErr (Cose.KeyId.fromText keyId) .sealingMalformed)
  Proc.check ((Cose.openLocal env ⟨priv, coseKeyId⟩ ⟨coseEncrypt, externalAad, expectedParties⟩).mapError
    (unsealError keyId))

end Manager

end Basil
