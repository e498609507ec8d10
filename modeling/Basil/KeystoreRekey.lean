import Basil.BundleCommands

/-!
# Rekeying a keystore database (`bundle_cli.rs`, `keystore_cli.rs`, `basil-keystore-backend/src/rekey.rs`)

A rekey copies the database under a new key into a staging directory, records its intent in a
marker, replaces the bundle (the commit point), moves the copy over the database and removes the
staging directory and last the marker. Identities of directories and files and the advisory locks
are assumed to hold.
-/

namespace Basil

open Basil.Bundle Command Durable Proc

structure RekeyEnv extends DepositEnv where
  blake3 : Bytes → FixedBytes 32
  rekeyAt : Bytes → Option Bytes → Option Bytes → FixedBytes 32 → FixedBytes 32 →
    Except KeystoreRekeyError (Bytes × Nat)
  verifyAt : Bytes → Option Bytes → Option Bytes → FixedBytes 32 → Bytes → FixedBytes 32 →
    Except KeystoreRekeyError Nat

def candidateName : String := "candidate.db"

def backendIdMaxBytes : Nat := 256

variable (env : RekeyEnv)

/-! ### The bundle side -/

structure BundleRekeyBinding where
  bundleId : FixedBytes 16
  backendId : String
  preEpoch : Nat
  postEpoch : Nat
  preBundleB3 : FixedBytes 32
  postBundleB3 : FixedBytes 32

structure PreparedBundleRekey where
  binding : BundleRekeyBinding
  postBytes : Bytes

structure BundleRekeyIdentity where
  bundleId : FixedBytes 16
  backendId : String
  epoch : Nat
  bundleB3 : FixedBytes 32

def dekOf : BackendCred → Option (FixedBytes 32)
  | .dbKeystoreDek dek => some dek
  | _ => none

def wrongKind (backendId : String) (cred : BackendCred) : String :=
  "bundle backend `" ++ backendId ++ "` has credential kind `" ++ cred.kind ++
    "`, expected `db-keystore-dek`"

def authenticatePreparedRekeyBundle (pre : ParsedBundle) (methods : MethodRegistry)
    (creds : CredBundle) (postBytes : Bytes) (backendId : String) : Except CommandError ParsedBundle := do
  let post ← (decode env.json postBytes).mapError
    (.sealing "parsing prepared keystore rekey bundle")
  ensure (post.body.header.bundleId = pre.body.header.bundleId)
    (.message "prepared bundle changed its authenticated bundle id")
  ensure (pre.body.header.epoch + 1 ≤ u64Max) (.message "bundle epoch overflow")
  ensure (post.body.header.epoch = pre.body.header.epoch + 1)
    (.message "prepared bundle did not advance exactly one epoch")
  ensure (¬ post.body.deposits.any fun d => d.backendId == backendId)
    (.message "prepared bundle retained a deposit for the rekeyed backend")
  let reopened ← (openBundle env.toUnlockEnv post methods).mapError
    (.sealing "authenticating prepared keystore rekey bundle")
  let (reopened, postReviews) := applyAuthorizedDeposits env.toDepositEnv post reopened
  ensure (¬ postReviews.any fun r => r.status == .effective)
    (.message "prepared bundle retained an effective credential deposit")
  let expected ← orErr ((creds.backends.get? backendId).bind dekOf)
    (.message "prepared source state lost the replacement db-keystore credential")
  let found ← orErr (reopened.backends.get? backendId)
    (.message ("prepared bundle reopened without backend `" ++ backendId ++ "`"))
  let dek ← orErr (dekOf found)
    (.message ("prepared bundle reopened backend `" ++ backendId ++ "` as `" ++ found.kind ++ "`"))
  ensure (dek = expected)
    (.message "prepared bundle did not retain the replacement db-keystore credential")
  return post

def effectiveIndices (reviews : List DepositReview) : List Nat :=
  (reviews.filter fun r => r.status == .effective).map DepositReview.index

def retainedDeposits (deposits : List DepositRecord) (effective : List Nat) (backendId : String) :
    List DepositRecord :=
  (deposits.zipIdx.filter fun (d, index) => !(effective.contains index) && d.backendId != backendId).map
    Prod.fst

def prepareDbKeystoreRekey (draw : ResealDraw) (methods : MethodRegistry) (backendId : String)
    (newDek : FixedBytes 32) : Command (FixedBytes 32 × PreparedBundleRekey) := do
  let preBytes ← readBundle
  let parsed ← opened "parsing bundle for keystore rekey" (decode env.json preBytes)
  let baseline ← opened "opening bundle for keystore rekey" (openBundle env.toUnlockEnv parsed methods)
  let (creds, reviews) := applyAuthorizedDeposits env.toDepositEnv parsed baseline
  let oldCred ← check (orErr (creds.backends.get? backendId)
    (.message ("bundle has no credential for backend `" ++ backendId ++ "`")))
  let oldDek ← check (orErr (dekOf oldCred) (.message (wrongKind backendId oldCred)))
  let creds := creds.set backendId (.dbKeystoreDek newDek)
  let postBytes ← sealing "re-sealing bundle for keystore rekey"
    (resealPayloadBumpEpochWithDeposits env.toUnlockEnv draw parsed methods creds
      (retainedDeposits parsed.body.deposits (effectiveIndices reviews) backendId))
  let post ← check (authenticatePreparedRekeyBundle env parsed methods creds postBytes backendId)
  let observed ← readEpoch
  ensureThat (¬ observed.any fun seen => parsed.body.header.epoch < seen)
    "bundle epoch is older than its protected epoch sidecar"
  return (oldDek, ⟨⟨parsed.body.header.bundleId, backendId, parsed.body.header.epoch,
    post.body.header.epoch, env.blake3 preBytes, env.blake3 postBytes⟩, postBytes⟩)

def resumeDbKeystoreRekey (methods : MethodRegistry) (backendId : String) :
    Command (BundleRekeyIdentity × Option Nat) := do
  let bytes ← readBundle
  let parsed ← opened "parsing bundle for keystore rekey resume" (decode env.json bytes)
  let creds ← opened "opening bundle for keystore rekey resume"
    (unlockCreds env.toDepositEnv parsed methods)
  let cred ← check (orErr (creds.backends.get? backendId)
    (.message ("bundle has no credential for backend `" ++ backendId ++ "`")))
  ensureThat cred.isDbKeystoreDek (wrongKind backendId cred)
  let observed ← readEpoch
  return (⟨parsed.body.header.bundleId, backendId, parsed.body.header.epoch, env.blake3 bytes⟩, observed)

/-! ### The marker -/

def BundleTransitionBinding.validateDetail (binding : BundleTransitionBinding) : Except String Unit := do
  ensure (binding.backendId ≠ "") "catalog backend identifier is empty"
  ensure (binding.backendId.utf8ByteSize ≤ backendIdMaxBytes)
    "catalog backend identifier exceeds the byte bound"
  ensure (binding.epochs.pre < binding.epochs.post) "post-epoch must exceed pre-epoch"
  ensure (binding.preBundleB3 ≠ binding.postBundleB3) "pre- and post-bundle digests must differ"

def IntentMarker.validate (marker : IntentMarker) : Except KeystoreRekeyError Unit := do
  ensure (marker.candidateName = Basil.candidateName)
    (.markerInvalid ("candidate name must be `" ++ Basil.candidateName ++ "` in version 2"))
  marker.binding.validateDetail.mapError .markerInvalid

inductive RecoveryPhase where
  | rollBack
  | rollForward
  deriving DecidableEq

/-- Only an exact authenticated side of the transition selects a recovery. -/
def IntentMarker.phaseForAuthenticatedBundle (marker : IntentMarker) (identity : BundleRekeyIdentity) :
    Except KeystoreRekeyError RecoveryPhase :=
  let sameAffiliation := identity.bundleId = marker.binding.bundleId ∧
    identity.backendId = marker.binding.backendId
  if sameAffiliation ∧ identity.bundleB3 = marker.binding.preBundleB3 ∧
      identity.epoch = marker.binding.epochs.pre then .ok .rollBack
  else if sameAffiliation ∧ identity.bundleB3 = marker.binding.postBundleB3 ∧
      identity.epoch = marker.binding.epochs.post then .ok .rollForward
  else .error (.recoveryUnrecoverable ("authenticated bundle identity/backend/digest/epoch tuple " ++
    "matches neither side of the marker transition"))

def markerName (dbName : String) : String := dbName ++ ".rekey-intent"

def readIntentMarker (dbName : String) : Command IntentMarker :=
  read fun host => do
    let marker ← orErr host.marker (.rekey (.markerMissing (markerName dbName)))
    marker.validate.mapError .rekey
    return marker

def writeIntentMarker (dbName : String) (marker : IntentMarker) : Command Unit := do
  check (marker.validate.mapError .rekey)
  read fun host => ensure (host.marker.isNone = true) (.rekey (.rekeyInProgress (markerName dbName)))
  write .stopped fun host => { host with marker := some marker }

def removeMarker : Command Unit := write .stopped fun host => { host with marker := none }

def guardStoreOpen (dbName : String) : Command Unit :=
  read fun host => ensure (host.marker.isNone = true) (.rekey (.rekeyInProgress (markerName dbName)))

def storeOpen (dbName : String) (openDb : Host → Except CommandError Unit) : Command Unit := do
  guardStoreOpen dbName
  read openDb

/-! ### Staging -/

structure Staged where
  copied : Nat
  candidateB3 : FixedBytes 32
  oldDbB3 : FixedBytes 32

def removeStaging : Command Unit := do
  write .stopped fun host => { host with staging := host.staging.map fun _ => none }
  write .stopped fun host => { host with staging := none }

def liveDb (missing : KeystoreRekeyError) : Command Bytes :=
  read fun host => orErr host.db (.rekey missing)

def stageAndVerify (oldDek newDek : FixedBytes 32) : Command Staged := do
  let db ← liveDb (.backend "open source database")
  let (wal, tshm) ← read fun host => .ok (host.wal, host.tshm)
  let (candidate, copied) ← check ((env.rekeyAt db wal tshm oldDek newDek).mapError .rekey)
  write .stopped fun host => { host with staging := some (some candidate) }
  let verified ← check ((env.verifyAt db wal tshm oldDek candidate newDek).mapError .rekey)
  check (ensure (verified = copied) (.rekey (.verificationFailed ("re-verification count " ++
    toString verified ++ " != rekey copy count " ++ toString copied))))
  return ⟨copied, env.blake3 candidate, env.blake3 db⟩

def rekeyToStaging (oldDek newDek : FixedBytes 32) : Command Staged := do
  read fun host => ensure (host.staging.isNone = true) (.rekey .stagingExists)
  write .stopped fun host => { host with staging := some none }
  match ← attempt (stageAndVerify env oldDek newDek) with
  | .ok staged => return staged
  | .error e => do
      removeStaging
      fail e

/-! ### Swap and finish -/

def unlinkOldSidecars : Command Unit := do
  write .stopped fun host => { host with wal := none }
  write .stopped fun host => { host with tshm := none }

def stagedCandidate : Command (Option Bytes) := read fun host => .ok host.staging.join

def renameCandidate : Command Unit :=
  write .stopped fun host =>
    match host.staging with
    | some (some candidate) => { host with db := some candidate, staging := some none }
    | _ => host

def removeStagingDir : Command Unit := do
  read fun host => ensure (host.staging.join = none) (.rekey (.backend "remove staging directory"))
  write .stopped fun host => { host with staging := none }

def swapCandidate (dbName : String) (staged : Staged) : Command Unit := do
  let marker ← readIntentMarker dbName
  check (ensure (marker.candidateB3 = staged.candidateB3 ∧ marker.oldDbB3 = staged.oldDbB3)
    (.rekey (.invalidPhase "intent marker does not describe the staged candidate")))
  let candidate ← read fun host =>
    orErr host.staging.join (.rekey (.backend "stat staged candidate"))
  check (ensure (env.blake3 candidate = staged.candidateB3)
    (.rekey (.candidateHashMismatch "staged candidate changed after verification")))
  unlinkOldSidecars
  renameCandidate

def finishRekey (dbName : String) : Command Unit := do
  let marker ← readIntentMarker dbName
  let db ← liveDb (.invalidPhase "cannot finish rekey without a live database after swap")
  check (ensure (env.blake3 db = marker.candidateB3) (.rekey (.invalidPhase
    "the live database does not match the staged candidate; swap not complete")))
  let candidate ← stagedCandidate
  check (ensure (candidate = none) (.rekey (.invalidPhase
    "the staged candidate is still present; swap must complete first")))
  removeStagingDir
  removeMarker

/-! ### The command -/

def freshRekey (draw : ResealDraw) (methods : MethodRegistry) (backendId dbName : String)
    (newDek : FixedBytes 32) (now : Nat) : Command Unit := do
  read fun host => ensure (host.marker.isNone = true) (.rekey (.rekeyInProgress (markerName dbName)))
  let (oldDek, bundle) ← prepareDbKeystoreRekey env draw methods backendId newDek
  let staged ← rekeyToStaging env oldDek newDek
  let binding : BundleTransitionBinding := ⟨bundle.binding.bundleId, bundle.binding.backendId,
    bundle.binding.preBundleB3, bundle.binding.postBundleB3,
    ⟨bundle.binding.preEpoch, bundle.binding.postEpoch⟩, staged.copied⟩
  check (binding.validateDetail.mapError fun detail => .rekey (.bundleBindingInvalid detail))
  writeIntentMarker dbName ⟨candidateName, staged.candidateB3, staged.oldDbB3, binding, now⟩
  writeBundle bundle.postBytes
  writeEpoch bundle.binding.postEpoch
  swapCandidate env dbName staged
  finishRekey env dbName

/-! ### Recovery -/

/-- The marker is read again and must be the one the phase was chosen by. -/
def pinMarker (dbName : String) (marker : IntentMarker) (detail : String) : Command Unit := do
  check (marker.validate.mapError .rekey)
  let pinned ← readIntentMarker dbName
  check (ensure (pinned = marker) (.rekey (.invalidPhase detail)))

def rollBack (dbName : String) (marker : IntentMarker) : Command Unit := do
  pinMarker dbName marker "the on-disk intent marker changed before rollback"
  let db ← liveDb (.recoveryUnrecoverable
    ("live database `" ++ dbName ++ "` is missing before the commit point"))
  check (ensure (env.blake3 db = marker.oldDbB3) (.rekey (.recoveryUnrecoverable
    ("live database `" ++ dbName ++ "` does not match the pre-rekey ciphertext recorded in the " ++
      "intent marker (possibly a restored backup); refusing to roll back"))))
  write .stopped fun host => { host with staging := host.staging.map fun _ => none }
  removeStagingDir
  removeMarker

inductive RecoveryOutcome where
  | resumedSwap
  | swapAlreadyComplete
  deriving DecidableEq

def rollForward (dbName : String) (marker : IntentMarker) : Command RecoveryOutcome := do
  pinMarker dbName marker "the on-disk intent marker changed before roll-forward"
  match ← stagedCandidate with
  | some candidate =>
      check (ensure (env.blake3 candidate = marker.candidateB3) (.rekey (.candidateHashMismatch
        ("staged candidate `" ++ marker.candidateName ++ "` does not match the intent marker"))))
      unlinkOldSidecars
      renameCandidate
      finishRekey env dbName
      return .resumedSwap
  | none =>
      let db ← liveDb (.recoveryUnrecoverable
        ("neither a staged candidate nor a live database `" ++ dbName ++ "` exists"))
      check (ensure (env.blake3 db = marker.candidateB3) (.rekey (.candidateHashMismatch
        ("no staged candidate, and the live database `" ++ dbName ++ "` does not match the " ++
          "swap-completed state recorded in the intent marker"))))
      finishRekey env dbName
      return .swapAlreadyComplete

/-- The answer is the outcome of a roll-forward, or nothing for a rollback. -/
def resumeRekey (methods : MethodRegistry) (backendId dbName : String) :
    Command (Option RecoveryOutcome) := do
  let marker ← readIntentMarker dbName
  let (identity, observed) ← resumeDbKeystoreRekey env methods backendId
  let phase ← check ((marker.phaseForAuthenticatedBundle identity).mapError .rekey)
  ensureThat (observed.all fun seen => seen ≤ identity.epoch)
    "sealed-bundle epoch sidecar is ahead of the authenticated bundle"
  writeEpoch identity.epoch
  match phase with
  | .rollBack => do
      rollBack env dbName marker
      return none
  | .rollForward => do
      let outcome ← rollForward env dbName marker
      return some outcome

end Basil
