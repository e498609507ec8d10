import Basil.Host

/-!
# The bundle commands (`bundle_cli.rs`) and the startup of the broker (`unlock.rs`)

The arguments stand for what the source parses and reads from other files; drawn randomness comes
with them.
-/

namespace Basil

open Basil.Bundle

namespace Bundle

def BackendCred.kind : BackendCred → String
  | vaultToken .. => "vault-token"
  | vaultAppRole .. => "vault-approle"
  | spiffeSigner .. => "spiffe-signer"
  | dbKeystoreDek .. => "db-keystore-dek"
  | onePassword .. => "onepassword"
  | awsKms .. => "aws-kms"
  | gcpKms .. => "gcp-kms"
  | opaqueCred .. => "opaque"

def BackendCred.isDbKeystoreDek : BackendCred → Bool
  | dbKeystoreDek _ => true
  | _ => false

def CredBundle.ensureDepositIdentity (creds : CredBundle) (drawn : FixedBytes 32) : CredBundle :=
  { creds with deposit := { creds.deposit with
      ingestPrivateKey := some (creds.deposit.ingestPrivateKey.getD drawn) } }

def CredBundle.allow (creds : CredBundle) (contributorId : String) (contributor : DepositContributor) :
    CredBundle :=
  { creds with deposit := { creds.deposit with
      contributors := creds.deposit.contributors.insert contributorId contributor } }

def nextDepositSeq (deposits : List DepositRecord) (contributorKeyId backendId : String) : Nat :=
  match ((deposits.filter fun d => d.contributorKeyId = contributorKeyId ∧ d.backendId = backendId).map
      DepositRecord.seq).max? with
  | none => 1
  | some seq => satAddU64 seq 1

end Bundle

namespace BundleCli

open Command

variable (env : DepositEnv)

def addSlot (draw : ResealDraw) (methods : MethodRegistry) (spec : SlotSpec) : Command Unit := do
  let bytes ← readBundle
  let parsed ← opened "parsing bundle" (decode env.json bytes)
  let newFile ← sealing "adding bundle slot" (Bundle.addSlot env.toUnlockEnv draw parsed methods spec)
  writeBundle newFile
  writeEpoch parsed.body.header.epoch

def setBackend (draw : ResealDraw) (methods : MethodRegistry) (backendId : String)
    (cred : BackendCred) : Command Unit := do
  let bytes ← readBundle
  let parsed ← opened "parsing bundle" (decode env.json bytes)
  let creds ← opened "opening bundle to update backend" (openBundle env.toUnlockEnv parsed methods)
  ensureThat (¬ (creds.backends.get? backendId).any BackendCred.isDbKeystoreDek)
    ("backend `" ++ backendId ++ "` is a db-keystore credential; replace it with `basil keystore rekey`")
  let newFile ← sealing "re-sealing bundle payload"
    (resealPayload env.toUnlockEnv draw parsed methods (creds.set backendId cred))
  let newParsed ← opened "parsing updated sealed bundle" (decode env.json newFile)
  writeBundle newFile
  writeEpoch newParsed.body.header.epoch

structure DepositArgs where
  recipient : FixedBytes 32
  signingSeed : FixedBytes 32
  contributorId : Option String
  backendId : String
  cred : BackendCred
  seq : Option Nat
  ephemeral : FixedBytes 32
  nonce : FixedBytes 12

def deposit (args : DepositArgs) : Command Unit := do
  ensureThat (¬ args.cred.isDbKeystoreDek)
    "db-keystore credentials cannot be supplied through bundle deposits"
  let bytes ← readBundle
  let parsed ← opened "parsing bundle" (decode env.json bytes)
  let contributorKeyId :=
    args.contributorId.getD (env.b64Encode (env.ed25519Public args.signingSeed).bytes)
  let seq := args.seq.getD (nextDepositSeq parsed.body.deposits contributorKeyId args.backendId)
  let record ← opened "creating signed credential deposit" (createSignedRecord env parsed.body.header
    args.backendId contributorKeyId seq args.recipient args.signingSeed args.cred args.ephemeral args.nonce)
  writeBundle (encodeWithDeposits env.json parsed.body.header parsed.headerAad parsed.body.slots
    parsed.body.payload (parsed.body.deposits ++ [record]))

def allow (draw : ResealDraw) (drawn : FixedBytes 32) (methods : MethodRegistry)
    (backends : List String) (contributor : String) (contributorId : Option String) : Command Unit := do
  ensureThat (backends ≠ []) "allow requires at least one --backend ID"
  let bytes ← readBundle
  let parsed ← opened "parsing bundle" (decode env.json bytes)
  let creds ← opened "opening bundle to allow contributor" (openBundle env.toUnlockEnv parsed methods)
  let key ← opened "validating contributor public key" (publicKeyFromToken env contributor)
  let creds := (creds.ensureDepositIdentity drawn).allow (contributorId.getD contributor)
    ⟨env.b64Encode key.bytes, backends⟩
  let newFile ← sealing "re-sealing allow-list"
    (resealPayload env.toUnlockEnv draw parsed methods creds)
  writeBundle newFile

def promote (draw : ResealDraw) (methods : MethodRegistry) (backendFilter contributorFilter : List String)
    (dryRun : Bool) : Command (List DepositReview) := do
  let bytes ← readBundle
  let parsed ← opened "parsing bundle" (decode env.json bytes)
  if dryRun then
    let creds ← opened "opening bundle for promote review" (openBundle env.toUnlockEnv parsed methods)
    return reviewDeposits env parsed creds
  let baseline ← opened "opening bundle for promote validation"
    (openBundle env.toUnlockEnv parsed methods)
  let targetsDbKeystore := (reviewDeposits env parsed baseline).any fun r =>
    r.status == .effective && (backendFilter.isEmpty || backendFilter.contains r.backendId) &&
      (contributorFilter.isEmpty || contributorFilter.contains r.contributorKeyId) &&
      (baseline.backends.get? r.backendId).any BackendCred.isDbKeystoreDek
  ensureThat (¬ targetsDbKeystore) ("an effective deposit targets an existing db-keystore credential; " ++
    "rotate it with `basil keystore rekey`")
  let (newFile, reviews) ← sealing "promoting deposits"
    (promoteDeposits env draw parsed methods backendFilter contributorFilter)
  let newParsed ← opened "parsing promoted bundle" (decode env.json newFile)
  writeBundle newFile
  writeEpoch newParsed.body.header.epoch
  return reviews

def depositKey (draw : ResealDraw) (drawn : FixedBytes 32) (methods : MethodRegistry) : Command Unit := do
  let bytes ← readBundle
  let parsed ← opened "parsing bundle" (decode env.json bytes)
  let creds ← opened "opening bundle for deposit-key" (openBundle env.toUnlockEnv parsed methods)
  let newFile ← sealing "re-sealing deposit identity"
    (resealPayload env.toUnlockEnv draw parsed methods (creds.ensureDepositIdentity drawn))
  writeBundle newFile

def verify (methods : MethodRegistry) : Command Unit := do
  let bytes ← readBundle
  let parsed ← opened "parsing bundle" (decode env.json bytes)
  let _ ← opened "verifying bundle unlock" (openBundle env.toUnlockEnv parsed methods)

def showBundle (methods : MethodRegistry) :
    Command (ParsedBundle × Option (List (String × String) × List DepositReview)) := do
  let bytes ← readBundle
  let parsed ← opened "parsing bundle" (decode env.json bytes)
  if methods.isEmpty then return (parsed, none)
  let creds ← opened "opening bundle for show" (openBundle env.toUnlockEnv parsed methods)
  return (parsed, some (creds.backends.entries.map fun (id, cred) => (id, cred.kind),
    reviewDeposits env parsed creds))

/-! ### Startup -/

def verifyAndAdvanceEpoch (current : Nat) : Command Unit := do
  match ← readEpoch with
  | some seen =>
      ensureThat (¬ current < seen) ("bundle epoch rollback: current " ++ toString current ++
        ", last seen " ++ toString seen)
      if current = seen then return ()
      writeEpoch current
  | none => writeEpoch current

def openBundleAtStartup (methods : MethodRegistry) : Command CredBundle := do
  let bytes ← readBundle
  let parsed ← opened "parsing sealed bundle" (decode env.json bytes)
  verifyAndAdvanceEpoch parsed.body.header.epoch
  opened "no unlock slot opened the bundle (fail closed)" (unlockCreds env parsed methods)

end BundleCli

end Basil
