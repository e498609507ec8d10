import Mathlib.Logic.Relation
import Basil.RekeyPreparation

/-!
# The epoch sidecar

Startup and rekey compare before they write; `add-slot`, `set-backend` and `promote` write the
epoch of the bundle they found.
-/

namespace Basil

open Basil.Bundle Command Durable Proc Host Spec BundleCli

def Host.stored (host : Host) : Option Bytes × Option Nat := (host.bundle, host.epoch)

def NotBelow (before now : Option Nat) : Prop := ∀ e ∈ before, ∃ e' ∈ now, e ≤ e'

theorem NotBelow.refl (recorded : Option Nat) : NotBelow recorded recorded :=
  fun e he => ⟨e, he, le_refl e⟩

theorem NotBelow.trans {a b c : Option Nat} (hab : NotBelow a b) (hbc : NotBelow b c) :
    NotBelow a c := by
  intro e he
  obtain ⟨e', he', hle⟩ := hab e he
  obtain ⟨e'', he'', hle'⟩ := hbc e' he'
  exact ⟨e'', he'', hle.trans hle'⟩

theorem notBelow_some {before : Option Nat} {epoch : Nat} (h : ∀ e ∈ before, e ≤ epoch) :
    NotBelow before (some epoch) :=
  fun e he => ⟨epoch, rfl, h e he⟩

/-! ### Commands that leave both files alone -/

section Frames

variable {τ : Type} {view : Host → τ} {α : Type}

theorem keeps_sealing (h : ∀ host ledger, view { host with ledger := ledger } = view host)
    (context : String) (p : Proc Ledger SealError α) : Keeps (Same view) (sealing context p) :=
  fun s => h s.1 _

variable (env : RekeyEnv) (dbName : String) (marker : IntentMarker)

theorem keeps_stageAndVerify (oldDek newDek : FixedBytes 32) :
    Keeps (Same stored) (stageAndVerify env oldDek newDek) := by
  refine keeps_bind (keeps_read _) fun db => ?_
  refine keeps_bind (keeps_read _) fun sidecars => ?_
  refine keeps_check_bind fun copy _ => ?_
  refine keeps_bind (keeps_write fun _ => rfl) fun _ => ?_
  refine keeps_check_bind fun verified _ => ?_
  exact keeps_check_bind fun _ _ => keeps_pure _

theorem keeps_rekeyToStaging (oldDek newDek : FixedBytes 32) :
    Keeps (Same stored) (rekeyToStaging env oldDek newDek) := by
  refine keeps_bind (keeps_read _) fun _ => ?_
  refine keeps_bind (keeps_write fun _ => rfl) fun _ => ?_
  refine keeps_bind (keeps_attempt (keeps_stageAndVerify env oldDek newDek)) fun result => ?_
  cases result with
  | ok staged => exact keeps_pure _
  | error e =>
    refine keeps_bind ?_ fun _ => keeps_fail _
    exact keeps_bind (keeps_write fun _ => rfl) fun _ => keeps_write fun _ => rfl

theorem keeps_readIntentMarker : Keeps (Same view) (readIntentMarker dbName) :=
  keeps_read _

theorem keeps_writeIntentMarker :
    Keeps (Same stored) (writeIntentMarker dbName marker) := by
  refine keeps_check_bind fun _ _ => ?_
  exact keeps_bind (keeps_read _) fun _ => keeps_write fun _ => rfl

theorem keeps_unlinkOldSidecars : Keeps (Same stored) unlinkOldSidecars :=
  keeps_bind (keeps_write fun _ => rfl) fun _ => keeps_write fun _ => rfl

theorem keeps_renameCandidate : Keeps (Same stored) renameCandidate := by
  refine keeps_write fun host => ?_
  cases host.staging with
  | none => rfl
  | some candidate => cases candidate <;> rfl

theorem keeps_removeStagingDir : Keeps (Same stored) removeStagingDir :=
  keeps_bind (keeps_read _) fun _ => keeps_write fun _ => rfl

theorem keeps_removeMarker : Keeps (Same stored) removeMarker := keeps_write fun _ => rfl

theorem keeps_swapCandidate (staged : Staged) :
    Keeps (Same stored) (swapCandidate env dbName staged) := by
  refine keeps_bind (keeps_readIntentMarker dbName) fun marker => ?_
  refine keeps_check_bind fun _ _ => ?_
  refine keeps_bind (keeps_read _) fun candidate => ?_
  refine keeps_check_bind fun _ _ => ?_
  exact keeps_bind keeps_unlinkOldSidecars fun _ => keeps_renameCandidate

theorem keeps_finishRekey : Keeps (Same stored) (finishRekey env dbName) := by
  refine keeps_bind (keeps_readIntentMarker dbName) fun marker => ?_
  refine keeps_bind (keeps_read _) fun db => ?_
  refine keeps_check_bind fun _ _ => ?_
  refine keeps_bind (keeps_read _) fun candidate => ?_
  refine keeps_check_bind fun _ _ => ?_
  exact keeps_bind keeps_removeStagingDir fun _ => keeps_removeMarker

theorem keeps_pinMarker (detail : String) :
    Keeps (Same view) (pinMarker dbName marker detail) := by
  refine keeps_check_bind fun _ _ => ?_
  exact keeps_bind (keeps_readIntentMarker dbName) fun _ => keeps_check _

theorem keeps_rollBack : Keeps (Same stored) (rollBack env dbName marker) := by
  refine keeps_bind (keeps_pinMarker dbName marker _) fun _ => ?_
  refine keeps_bind (keeps_read _) fun db => ?_
  refine keeps_check_bind fun _ _ => ?_
  refine keeps_bind (keeps_write fun _ => rfl) fun _ => ?_
  exact keeps_bind keeps_removeStagingDir fun _ => keeps_removeMarker

theorem keeps_rollForward : Keeps (Same stored) (rollForward env dbName marker) := by
  refine keeps_bind (keeps_pinMarker dbName marker _) fun _ => ?_
  refine keeps_bind (keeps_read _) fun candidate => ?_
  cases candidate with
  | some candidate =>
    refine keeps_check_bind fun _ _ => ?_
    refine keeps_bind keeps_unlinkOldSidecars fun _ => ?_
    refine keeps_bind keeps_renameCandidate fun _ => ?_
    exact keeps_bind (keeps_finishRekey env dbName) fun _ => keeps_pure _
  | none =>
    refine keeps_bind (keeps_read _) fun db => ?_
    refine keeps_check_bind fun _ _ => ?_
    exact keeps_bind (keeps_finishRekey env dbName) fun _ => keeps_pure _

end Frames

/-! ### Commands that leave the sidecar alone -/

section Unrecorded

variable (env : DepositEnv) (draw : ResealDraw) (drawn : FixedBytes 32) (methods : MethodRegistry)

theorem keeps_readBundle {τ : Type} {view : Host → τ} : Keeps (Same view) readBundle := keeps_read _

theorem keeps_writeBundle (bytes : Bytes) : Keeps (Same epoch) (writeBundle bytes) :=
  keeps_write fun _ => rfl

theorem keeps_deposit (args : BundleCli.DepositArgs) :
    Keeps (Same epoch) (deposit env args) := by
  refine keeps_check_bind fun _ _ => ?_
  refine keeps_bind keeps_readBundle fun bytes => ?_
  refine keeps_check_bind fun parsed _ => ?_
  exact keeps_check_bind fun record _ => keeps_writeBundle _

theorem keeps_allow (backends : List String) (contributor : String)
    (contributorId : Option String) :
    Keeps (Same epoch)
      (allow env draw drawn methods backends contributor contributorId) := by
  refine keeps_check_bind fun _ _ => ?_
  refine keeps_bind keeps_readBundle fun bytes => ?_
  refine keeps_check_bind fun parsed _ => ?_
  refine keeps_check_bind fun creds _ => ?_
  refine keeps_check_bind fun key _ => ?_
  exact keeps_bind (keeps_sealing (fun _ _ => rfl) _ _) fun file => keeps_writeBundle _

theorem keeps_depositKey :
    Keeps (Same epoch) (depositKey env draw drawn methods) := by
  refine keeps_bind keeps_readBundle fun bytes => ?_
  refine keeps_check_bind fun parsed _ => ?_
  refine keeps_check_bind fun creds _ => ?_
  exact keeps_bind (keeps_sealing (fun _ _ => rfl) _ _) fun file => keeps_writeBundle _

theorem keeps_verify : Keeps (Same epoch) (verify env methods) := by
  refine keeps_bind keeps_readBundle fun bytes => ?_
  refine keeps_check_bind fun parsed _ => ?_
  exact keeps_check_bind fun creds _ => keeps_pure _

theorem keeps_showBundle : Keeps (Same epoch) (showBundle env methods) := by
  refine keeps_bind keeps_readBundle fun bytes => ?_
  refine keeps_check_bind fun parsed _ => ?_
  split
  · exact keeps_pure _
  · exact keeps_check_bind fun creds _ => keeps_pure _

end Unrecorded

/-! ### Commands that record an epoch -/

section Recorded

variable {bundle : Option Bytes} {recorded : Option Nat} {α : Type}

def Kept (recorded : Option Nat) (stored : Option Bytes × Option Nat) : Prop :=
  NotBelow recorded stored.2

def Advances (bundle : Option Bytes) (recorded : Option Nat) (p : Command α) : Prop :=
  Spec (Known stored (bundle, recorded)) p (fun _ host => Kept recorded host.stored)
    (fun host => Kept recorded host.stored)

/-- The sidecar is at most `slack` epochs ahead of the bundle on disk. -/
def UpToDate (env : DepositEnv) (slack : Nat) (bundle : Option Bytes) (recorded : Option Nat) : Prop :=
  ∀ bytes ∈ bundle, ∀ parsed, decode env.json bytes = .ok parsed →
    ∀ e ∈ recorded, e ≤ parsed.body.header.epoch + slack

def Records (bundle : Option Bytes) (recorded : Option Nat) (p : Command α) (Q : α → Host → Prop) :
    Prop :=
  Spec (Known stored (bundle, recorded)) p Q fun host => Kept recorded host.stored

variable {β : Type} {R : β → Host → Prop}

theorem kept_self : Kept recorded (bundle, recorded) := NotBelow.refl _

theorem records_readBundle {f : Bytes → Command β}
    (hf : ∀ bytes, bundle = some bytes → Records bundle recorded (f bytes) R) :
    Records bundle recorded (readBundle >>= f) R :=
  spec_readBundle_of (fun _ hhost => congrArg Prod.fst hhost) kept_self hf

theorem records_readEpoch {f : Option Nat → Command β} (hf : Records bundle recorded (f recorded) R) :
    Records bundle recorded (readEpoch >>= f) R := by
  refine known_read (x := .ok recorded) kept_self ?_ ?_
  · intro host hhost
    rw [show host.epoch = recorded from congrArg Prod.snd hhost]
  · intro seen hseen
    cases hseen
    exact hf

theorem records_check {x : Except CommandError α} {f : α → Command β}
    (hf : ∀ a, x = .ok a → Records bundle recorded (f a) R) :
    Records bundle recorded (check x >>= f) R :=
  known_check kept_self hf

theorem records_opened {context : String} {x : Except SealError α} {f : α → Command β}
    (hf : ∀ a, x = .ok a → Records bundle recorded (f a) R) :
    Records bundle recorded (opened context x >>= f) R :=
  records_check fun a ha => hf a (mapError_eq_ok.mp ha)

theorem records_sealing {context : String} {p : Proc Ledger SealError α} {f : α → Command β}
    (hf : ∀ a ledger ledger', p.exec ledger = (.ok a, ledger') → Records bundle recorded (f a) R) :
    Records bundle recorded (sealing context p >>= f) R :=
  spec_sealing (fun _ _ => rfl) kept_self hf

theorem records_keeps {p : Command α} (hp : Keeps (Same stored) p) :
    Records bundle recorded p fun _ => Known stored (bundle, recorded) :=
  known_keeps kept_self hp

theorem records_pure {a : α} {φ : α → Prop} (ha : φ a) : Records bundle recorded (pure a)
    fun b host => φ b ∧ Known stored (bundle, recorded) host :=
  known_pure kept_self ha

theorem records_writeEpoch {epoch : Nat} (h : ∀ e ∈ recorded, e ≤ epoch) :
    Records bundle recorded (writeEpoch epoch) fun _ => Known stored (bundle, some epoch) := by
  refine known_write kept_self (notBelow_some h) ?_
  intro host hhost
  exact congrArg (·, some epoch) (congrArg Prod.fst hhost)

theorem records_writeBundle (file : Bytes) :
    Records bundle recorded (writeBundle file) fun _ => Known stored (some file, recorded) := by
  refine known_write kept_self kept_self ?_
  intro host hhost
  exact congrArg (some file, ·) (congrArg Prod.snd hhost)

theorem records_replace {file : Bytes} {epoch : Nat} (h : ∀ e ∈ recorded, e ≤ epoch) :
    Records bundle recorded (writeBundle file >>= fun _ => writeEpoch epoch)
      fun _ => Known stored (some file, some epoch) :=
  (records_writeBundle file).bind fun _ => records_writeEpoch h

theorem advances_of_known {bundle' : Option Bytes} {epoch : Nat} {p : Command α}
    (h : ∀ e ∈ recorded, e ≤ epoch)
    (hp : Records bundle recorded p fun _ => Known stored (bundle', some epoch)) :
    Advances bundle recorded p := by
  refine hp.imp (fun _ hdisk => hdisk) ?_
  intro _ host hhost
  rw [show host.stored = _ from hhost]
  exact notBelow_some h

theorem advances_of_keeps {p : Command α} (hp : Keeps (Same epoch) p) :
    Advances bundle recorded p := by
  intro host writes hhost
  have hrecorded : host.epoch = recorded := congrArg Prod.snd hhost
  have hsame := (hp (host, writes)).trans hrecorded
  have hkept : NotBelow recorded (p.exec (host, writes)).2.1.epoch := by
    rw [hsame]
    exact NotBelow.refl _
  exact ⟨hkept, fun _ _ => hkept⟩

variable {env : DepositEnv} (draw : ResealDraw) (methods : MethodRegistry)

theorem advances_addSlot (hup : UpToDate env 0 bundle recorded) (spec : SlotSpec) :
    Advances bundle recorded (addSlot env draw methods spec) := by
  refine records_readBundle fun bytes hbytes => ?_
  refine records_opened fun parsed hparsed => ?_
  refine records_sealing fun file _ _ _ => ?_
  exact advances_of_known (hup bytes hbytes parsed hparsed)
    (records_replace (hup bytes hbytes parsed hparsed))

theorem advances_setBackend (hup : UpToDate env 0 bundle recorded) (backendId : String)
    (cred : BackendCred) :
    Advances bundle recorded (setBackend env draw methods backendId cred) := by
  refine records_readBundle fun bytes hbytes => ?_
  refine records_opened fun parsed hparsed => ?_
  refine records_opened fun creds _ => ?_
  refine records_check fun _ _ => ?_
  refine records_sealing fun file _ _ hreseal => ?_
  refine records_opened fun newParsed hnew => ?_
  -- The reseal keeps the header, so the epoch written is that of the bundle found on disk.
  obtain ⟨_, _, -, -, rfl⟩ := resealPayload_ok hreseal
  have hle : ∀ e ∈ recorded, e ≤ newParsed.body.header.epoch := by
    rw [decode_encoded_ok hnew]
    exact hup bytes hbytes parsed hparsed
  exact advances_of_known hle (records_replace hle)

theorem advances_promote {dryRun : Bool} (hup : dryRun = false → UpToDate env 1 bundle recorded)
    (backendFilter contributorFilter : List String) :
    Advances bundle recorded
      (promote env draw methods backendFilter contributorFilter dryRun) := by
  refine records_readBundle fun bytes hbytes => ?_
  refine records_opened fun parsed hparsed => ?_
  cases dryRun with
  | true =>
    refine records_opened fun creds _ => ?_
    exact advances_of_keeps (keeps_pure _)
  | false =>
    refine records_opened fun baseline hopen => ?_
    refine records_check fun _ _ => ?_
    refine records_sealing fun (file, reviews) _ _ hpromote => ?_
    refine records_opened fun newParsed hnew => ?_
    obtain ⟨_, _, _, -, -, hfile⟩ :=
      resealPayloadBumpEpochWithDeposits_ok (promoteDeposits_ok hopen hpromote)
    have hle : ∀ e ∈ recorded, e ≤ newParsed.body.header.epoch := by
      rw [hfile] at hnew
      rw [decode_encoded_ok hnew]
      exact hup rfl bytes hbytes parsed hparsed
    have hend : Spec (Known stored (some file, some newParsed.body.header.epoch))
        (pure reviews : Command (List DepositReview))
        (fun _ => Known stored (some file, some newParsed.body.header.epoch))
        (fun host => Kept recorded host.stored) :=
      known_keeps (notBelow_some hle) (keeps_pure reviews)
    exact advances_of_known hle
      ((records_writeBundle file).bind fun _ => (records_writeEpoch hle).bind fun _ => hend)

/-! ### Startup -/

theorem spec_verifyAndAdvanceEpoch (current : Nat) :
    Records bundle recorded (verifyAndAdvanceEpoch current) fun _ host =>
      (∀ e ∈ recorded, e ≤ current) ∧ Known stored (bundle, some current) host := by
  refine records_readEpoch ?_
  cases recorded with
  | none =>
    have hle : ∀ e ∈ (none : Option Nat), e ≤ current := nofun
    exact (records_writeEpoch hle).imp (fun _ h => h) fun _ _ h => ⟨hle, h⟩
  | some seen =>
    refine records_check fun _ hseen => ?_
    have hle : ∀ e ∈ some seen, e ≤ current := by
      rintro e ⟨⟩
      exact Nat.not_lt.mp (ensure_eq_ok.mp hseen)
    split
    · rename_i heq
      subst heq
      exact (records_pure (φ := fun _ => ∀ e ∈ some current, e ≤ current) hle)
    · exact (records_writeEpoch hle).imp (fun _ h => h) fun _ _ h => ⟨hle, h⟩

def NotOlder (env : DepositEnv) (bundle : Option Bytes) (recorded : Option Nat) : Prop :=
  ∃ bytes parsed, bundle = some bytes ∧ decode env.json bytes = .ok parsed ∧
    ∀ e ∈ recorded, e ≤ parsed.body.header.epoch

theorem spec_openBundleAtStartup :
    Records bundle recorded (openBundleAtStartup env methods)
      fun _ _ => NotOlder env bundle recorded := by
  refine records_readBundle fun bytes hbytes => ?_
  refine records_opened fun parsed hparsed => ?_
  refine (spec_verifyAndAdvanceEpoch parsed.body.header.epoch).bind fun _ => ?_
  refine of_fact fun hle => ?_
  have hkept : Kept recorded (bundle, some parsed.body.header.epoch) := notBelow_some hle
  refine (known_keeps hkept (keeps_check _)).imp (fun _ h => h) ?_
  intro _ _ _
  exact ⟨bytes, parsed, hbytes, hparsed, hle⟩

theorem advances_startup :
    Advances bundle recorded (openBundleAtStartup env methods) := by
  intro host writes hhost
  obtain ⟨hkept, -⟩ := spec_openBundleAtStartup methods host writes hhost
  exact ⟨hkept, fun _ _ => hkept⟩

end Recorded

/-! ### Rekeys -/

section Rekeys

variable {bundle : Option Bytes} {recorded : Option Nat} {env : RekeyEnv} (draw : ResealDraw)
  (methods : MethodRegistry) (backendId dbName : String)

theorem spec_prepareDbKeystoreRekey (newDek : FixedBytes 32) :
    Records bundle recorded (prepareDbKeystoreRekey env draw methods backendId newDek)
      fun result host => (∀ e ∈ recorded, e ≤ result.2.binding.postEpoch) ∧
        Known stored (bundle, recorded) host := by
  refine records_readBundle fun preBytes _ => ?_
  refine records_opened fun parsed _ => ?_
  refine records_opened fun baseline _ => ?_
  refine records_check fun oldCred _ => ?_
  refine records_check fun oldDek _ => ?_
  refine records_sealing fun postBytes _ _ _ => ?_
  refine records_check fun post hpost => ?_
  refine records_readEpoch ?_
  refine records_check fun _ hobserved => ?_
  have hle : ∀ e ∈ recorded, e ≤ post.body.header.epoch := by
    intro e he
    have hnot := ensure_eq_ok.mp hobserved
    have hpre : e ≤ parsed.body.header.epoch := by
      rw [Option.mem_def.mp he] at hnot
      simpa using hnot
    obtain ⟨-, -, _, -⟩ := authenticatePreparedRekeyBundle_ok hpost
    omega
  exact records_pure (φ := fun result : FixedBytes 32 × PreparedBundleRekey =>
    ∀ e ∈ recorded, e ≤ result.2.binding.postEpoch) hle

theorem spec_resumeDbKeystoreRekey :
    Records bundle recorded (resumeDbKeystoreRekey env methods backendId)
      fun result host => result.2 = recorded ∧ Known stored (bundle, recorded) host := by
  refine records_readBundle fun bytes _ => ?_
  refine records_opened fun parsed _ => ?_
  refine records_opened fun creds _ => ?_
  refine records_check fun cred _ => ?_
  refine records_check fun _ _ => ?_
  refine records_readEpoch ?_
  exact records_pure (φ := fun result : BundleRekeyIdentity × Option Nat => result.2 = recorded) rfl

theorem advances_freshRekey (newDek : FixedBytes 32) (now : Nat) :
    Advances bundle recorded (freshRekey env draw methods backendId dbName newDek now) := by
  refine (records_keeps (keeps_read _)).bind fun _ => ?_
  refine (spec_prepareDbKeystoreRekey draw methods backendId newDek).bind fun prepared => ?_
  refine of_fact fun hle => ?_
  refine (records_keeps (keeps_rekeyToStaging env _ _)).bind fun staged => ?_
  refine records_check fun _ _ => ?_
  refine (records_keeps (keeps_writeIntentMarker dbName _)).bind fun _ => ?_
  refine (records_writeBundle _).bind fun _ => ?_
  have hkept : Kept recorded (some prepared.2.postBytes, some prepared.2.binding.postEpoch) :=
    notBelow_some hle
  have hswap : Spec (Known stored (some prepared.2.postBytes, some prepared.2.binding.postEpoch))
      (swapCandidate env dbName staged >>= fun _ => finishRekey env dbName)
      (fun _ host => Kept recorded host.stored) (fun host => Kept recorded host.stored) := by
    refine (known_keeps hkept (keeps_bind (keeps_swapCandidate env dbName staged)
      fun _ => keeps_finishRekey env dbName)).imp (fun _ h => h) ?_
    intro _ host hhost
    rw [show host.stored = _ from hhost]
    exact hkept
  exact (records_writeEpoch hle).bind fun _ => hswap

theorem advances_resumeRekey :
    Advances bundle recorded (resumeRekey env methods backendId dbName) := by
  refine (records_keeps (keeps_readIntentMarker dbName)).bind fun marker => ?_
  refine (spec_resumeDbKeystoreRekey methods backendId).bind fun (identity, observed) => ?_
  refine of_fact fun hobserved => ?_
  refine records_check fun phase _ => ?_
  refine records_check fun _ hahead => ?_
  have hle : ∀ e ∈ recorded, e ≤ identity.epoch := by
    intro e he
    have hall := ensure_eq_ok.mp hahead
    rw [show observed = recorded from hobserved, Option.mem_def.mp he] at hall
    simpa using hall
  have hkept := notBelow_some hle
  refine advances_of_known hle ((records_writeEpoch hle).bind fun _ => known_keeps hkept ?_)
  cases phase with
  | rollBack => exact keeps_bind (keeps_rollBack env dbName marker) fun _ => keeps_pure _
  | rollForward =>
    exact keeps_bind (keeps_rollForward env dbName marker) fun _ => keeps_pure _

end Rekeys

/-! ### Runs -/

inductive Activity where
  | replaced (bytes : Bytes)
  | addSlot (draw : ResealDraw) (methods : MethodRegistry) (spec : SlotSpec)
  | setBackend (draw : ResealDraw) (methods : MethodRegistry) (backendId : String) (cred : BackendCred)
  | deposit (args : BundleCli.DepositArgs)
  | allow (draw : ResealDraw) (drawn : FixedBytes 32) (methods : MethodRegistry)
      (backends : List String) (contributor : String) (contributorId : Option String)
  | promote (draw : ResealDraw) (methods : MethodRegistry)
      (backendFilter contributorFilter : List String) (dryRun : Bool)
  | depositKey (draw : ResealDraw) (drawn : FixedBytes 32) (methods : MethodRegistry)
  | verify (methods : MethodRegistry)
  | showBundle (methods : MethodRegistry)
  | startup (methods : MethodRegistry)
  | freshRekey (draw : ResealDraw) (methods : MethodRegistry) (backendId dbName : String)
      (newDek : FixedBytes 32) (now : Nat)
  | resumeRekey (methods : MethodRegistry) (backendId dbName : String)

def Command.leaves {α : Type} (p : Command α) (host : Host) (writes : Nat) : Host :=
  (p.exec (host, writes)).2.1

variable (env : RekeyEnv)

def Activity.leaves (host : Host) (writes : Nat) : Activity → Host
  | replaced bytes => { host with bundle := some bytes }
  | addSlot draw methods spec =>
      (BundleCli.addSlot env.toDepositEnv draw methods spec).leaves host writes
  | setBackend draw methods backendId cred =>
      (BundleCli.setBackend env.toDepositEnv draw methods backendId cred).leaves host writes
  | deposit args => (BundleCli.deposit env.toDepositEnv args).leaves host writes
  | allow draw drawn methods backends contributor contributorId =>
      (BundleCli.allow env.toDepositEnv draw drawn methods backends contributor contributorId).leaves
        host writes
  | promote draw methods backendFilter contributorFilter dryRun =>
      (BundleCli.promote env.toDepositEnv draw methods backendFilter contributorFilter dryRun).leaves
        host writes
  | depositKey draw drawn methods =>
      (BundleCli.depositKey env.toDepositEnv draw drawn methods).leaves host writes
  | verify methods => (BundleCli.verify env.toDepositEnv methods).leaves host writes
  | showBundle methods => (BundleCli.showBundle env.toDepositEnv methods).leaves host writes
  | startup methods => (BundleCli.openBundleAtStartup env.toDepositEnv methods).leaves host writes
  | freshRekey draw methods backendId dbName newDek now =>
      (Basil.freshRekey env draw methods backendId dbName newDek now).leaves host writes
  | resumeRekey methods backendId dbName =>
      (Basil.resumeRekey env methods backendId dbName).leaves host writes

def Activity.Current (host : Host) : Activity → Prop
  | addSlot .. => UpToDate env.toDepositEnv 0 host.bundle host.epoch
  | setBackend .. => UpToDate env.toDepositEnv 0 host.bundle host.epoch
  | promote _ _ _ _ dryRun =>
      dryRun = false → UpToDate env.toDepositEnv 1 host.bundle host.epoch
  | _ => True

def CurrentStep (host host' : Host) : Prop :=
  ∃ (activity : Activity) (writes : Nat),
    activity.Current env host ∧ host' = activity.leaves env host writes

variable {env}

theorem Advances.leaves {α : Type} {p : Command α} {host : Host}
    (h : Advances host.bundle host.epoch p) (writes : Nat) :
    NotBelow host.epoch (p.leaves host writes).epoch :=
  (h host writes rfl).1

theorem CurrentStep.notBelow {host host' : Host} (h : CurrentStep env host host') :
    NotBelow host.epoch host'.epoch := by
  obtain ⟨activity, writes, hcurrent, rfl⟩ := h
  cases activity with
  | replaced => exact NotBelow.refl _
  | addSlot draw methods spec => exact (advances_addSlot draw methods hcurrent spec).leaves writes
  | setBackend draw methods backendId cred =>
    exact (advances_setBackend draw methods hcurrent backendId cred).leaves writes
  | deposit args => exact (advances_of_keeps (keeps_deposit _ args)).leaves writes
  | allow draw drawn methods backends contributor contributorId =>
    exact (advances_of_keeps (keeps_allow _ draw drawn methods backends contributor
      contributorId)).leaves writes
  | promote draw methods backendFilter contributorFilter =>
    exact (advances_promote draw methods hcurrent backendFilter contributorFilter).leaves writes
  | depositKey draw drawn methods =>
    exact (advances_of_keeps (keeps_depositKey _ draw drawn methods)).leaves writes
  | verify methods => exact (advances_of_keeps (keeps_verify _ methods)).leaves writes
  | showBundle methods => exact (advances_of_keeps (keeps_showBundle _ methods)).leaves writes
  | startup methods => exact (advances_startup methods).leaves writes
  | freshRekey draw methods backendId dbName newDek now =>
    exact (advances_freshRekey draw methods backendId dbName newDek now).leaves writes
  | resumeRekey methods backendId dbName =>
    exact (advances_resumeRekey methods backendId dbName).leaves writes

theorem notBelow_of_run {host host' : Host}
    (hrun : Relation.ReflTransGen (CurrentStep env) host host') :
    NotBelow host.epoch host'.epoch := by
  induction hrun with
  | refl => exact NotBelow.refl _
  | tail _ hstep ih => exact ih.trans hstep.notBelow

theorem recorded_epoch_never_decreases {host host' : Host}
    (hrun : Relation.ReflTransGen (CurrentStep env) host host') :
    NotBelow host.epoch host'.epoch ∧
      ∀ methods writes creds,
        ((openBundleAtStartup env.toDepositEnv methods).exec (host', writes)).1 = .ok creds →
        NotOlder env.toDepositEnv host'.bundle host.epoch := by
  have hbelow := notBelow_of_run hrun
  refine ⟨hbelow, ?_⟩
  intro methods writes creds hstart
  obtain ⟨-, hok⟩ := spec_openBundleAtStartup methods host' writes rfl
  obtain ⟨bytes, parsed, hbytes, hparsed, hle⟩ := hok creds hstart
  refine ⟨bytes, parsed, hbytes, hparsed, ?_⟩
  intro e he
  obtain ⟨e', he', hee⟩ := hbelow e he
  exact hee.trans (hle e' he')

/-! ### A restored bundle and an added slot -/

section Restored

variable {host : Host} {writes : Nat}

noncomputable def plainBody : BundleBody :=
  textBody ciHeader [] (FixedBytes.fill 12 5) (FixedBytes.fill 12 6) ciBaseline []

theorem plainBody_decode : decode textDeposits.json (textFile plainBody) = .ok ⟨plainBody⟩ :=
  decode_textFile rfl rfl

def plainHost (bundle : Option Bytes) (epoch : Option Nat) : Host :=
  ⟨bundle, epoch, none, none, none, none, none, []⟩

def plainSpec : SlotSpec := ⟨.passphrase [1] ⟨8, 1, 1⟩, "backup"⟩

theorem exec_addSlot_plainBody (ledger : Ledger) :
    ∃ file, ((Bundle.addSlot textDeposits.toUnlockEnv ciDraw ⟨plainBody⟩ ciMethods plainSpec).exec
      ledger).1 = .ok file := by
  have hkek : recoverAny textDeposits.toUnlockEnv ⟨plainBody⟩ ciMethods = .ok ciKek := recoverAny_textBody
  simp only [Bundle.addSlot, exec_bind, exec_check, hkek, plainSpec]
  exact ⟨_, rfl⟩

theorem addSlot_plainBody (hbundle : host.bundle = some (textFile plainBody)) :
    ((addSlot textDeposits ciDraw ciMethods plainSpec).leaves host 2).epoch = some 1 := by
  obtain ⟨file, hfile⟩ := exec_addSlot_plainBody host.ledger
  obtain ⟨ledger', hslot⟩ := exec_of_fst_ok hfile
  have hexec : (addSlot textDeposits ciDraw ciMethods plainSpec).exec (host, 2) =
      (.ok (), ({ host with ledger := ledger', bundle := some file, epoch := some 1 }, 0)) := by
    refine exec_bind_step (exec_readBundle_ok.mpr ⟨hbundle, rfl⟩) ?_
    refine exec_bind_step (exec_opened_ok.mpr ⟨plainBody_decode, rfl⟩) ?_
    refine exec_bind_step (exec_sealing_ok.mpr ⟨_, hslot, rfl⟩) ?_
    rfl
  rw [Command.leaves, hexec]

theorem startup_plainBody (hbundle : host.bundle = some (textFile plainBody))
    (hepoch : host.epoch = some 1) :
    ∃ creds, ((openBundleAtStartup textDeposits ciMethods).exec (host, writes)).1 =
      .ok creds := by
  have hverify : (verifyAndAdvanceEpoch 1).exec (host, writes) =
      (.ok (), (host, writes)) := by
    have hread : readEpoch.exec (host, writes) = (.ok (some 1), (host, writes)) := by
      show (Except.ok host.epoch, _) = _
      rw [hepoch]
    rw [verifyAndAdvanceEpoch, exec_bind_of_ok hread]
    rfl
  obtain ⟨creds, hcreds⟩ : ∃ creds, unlockCreds textDeposits ⟨plainBody⟩ ciMethods = .ok creds :=
    ⟨_, unlockCreds_textBody⟩
  refine ⟨creds, congrArg Prod.fst (?_ : _ = (Except.ok creds, (host, writes)))⟩
  refine exec_bind_step (exec_readBundle_ok.mpr ⟨hbundle, rfl⟩) ?_
  refine exec_bind_step (exec_opened_ok.mpr ⟨plainBody_decode, rfl⟩) ?_
  refine exec_bind_step hverify ?_
  exact exec_opened_ok.mpr ⟨hcreds, rfl⟩

theorem promote_plainBody :
    ((promote textDeposits ciDraw ciMethods [] [] false).leaves
      (plainHost (some (textFile plainBody)) (some 1)) 2).epoch = some 2 := by
  obtain ⟨ledger', hpromote⟩ := promote_textBody ciDraw [] [] (by decide)
    (show (ParsedBundle.mk plainBody).body = plainBody from rfl)
  have hopen : openBundle textDeposits.toUnlockEnv ⟨plainBody⟩ ciMethods = .ok ciBaseline :=
    openBundle_textBody
  have hnew := ciNext_decode (promotedPayload ciBaseline
    (promotedOf textDeposits ⟨plainBody⟩ ciBaseline [] []))
    (keptDeposits [] (promotedOf textDeposits ⟨plainBody⟩ ciBaseline [] []))
  generalize hnext : nextTextBody ciDraw ciHeader (promotedPayload ciBaseline
    (promotedOf textDeposits ⟨plainBody⟩ ciBaseline [] []))
    (keptDeposits [] (promotedOf textDeposits ⟨plainBody⟩ ciBaseline [] [])) = next at hpromote hnew
  have hepoch : next.header.epoch = 2 := by
    rw [← hnext]
    rfl
  have hexec : (promote textDeposits ciDraw ciMethods [] [] false).exec
      (plainHost (some (textFile plainBody)) (some 1), 2) =
      (.ok (reviewDeposits textDeposits ⟨plainBody⟩ ciBaseline),
        (⟨some (textFile next), some next.header.epoch, none, none, none, none, none, ledger'⟩, 0)) := by
    refine exec_bind_step (exec_readBundle_ok.mpr ⟨rfl, rfl⟩) ?_
    refine exec_bind_step (exec_opened_ok.mpr ⟨plainBody_decode, rfl⟩) ?_
    refine exec_bind_step (exec_opened_ok.mpr ⟨hopen, rfl⟩) ?_
    refine exec_bind_step (a := ()) rfl ?_
    refine exec_bind_step (exec_sealing_ok.mpr ⟨_, hpromote, rfl⟩) ?_
    refine exec_bind_step (exec_opened_ok.mpr ⟨hnew, rfl⟩) ?_
    rfl
  rw [Command.leaves, hexec, ← hepoch]

theorem added_slot_rolls_sidecar_back :
    let older := textFile plainBody
    let host := plainHost (some older) (some 1)
    let promoted := (Activity.promote ciDraw ciMethods [] [] false).leaves textRekey host 2
    let restored := (Activity.replaced older).leaves textRekey promoted 0
    let added := (Activity.addSlot ciDraw ciMethods plainSpec).leaves textRekey restored 2
    let again := (Activity.replaced older).leaves textRekey added 0
    promoted.epoch = some 2 ∧ added.epoch = some 1 ∧
      ∃ creds, ((openBundleAtStartup textRekey.toDepositEnv ciMethods).exec (again, 0)).1 =
        .ok creds := by
  intro older host promoted restored added again
  have hadded : added.epoch = some 1 := addSlot_plainBody rfl
  exact ⟨promote_plainBody, hadded, startup_plainBody rfl hadded⟩

theorem added_slot_keeps_sidecar :
    ∃ host', Relation.ReflTransGen (CurrentStep textRekey)
        (plainHost (some (textFile plainBody)) (some 1)) host' ∧
      (∃ creds, ((openBundleAtStartup textRekey.toDepositEnv ciMethods).exec (host', 0)).1 =
        .ok creds) ∧
      NotBelow (some 1) host'.epoch ∧ NotOlder textRekey.toDepositEnv host'.bundle (some 1) := by
  have hup : UpToDate textDeposits 0 (some (textFile plainBody)) (some 1) := by
    rintro _ ⟨⟩ parsed hparsed _ ⟨⟩
    obtain rfl : ParsedBundle.mk plainBody = parsed :=
      Except.ok.inj (plainBody_decode.symm.trans hparsed)
    exact le_refl 1
  let host := plainHost (some (textFile plainBody)) (some 1)
  let added := (Activity.addSlot ciDraw ciMethods plainSpec).leaves textRekey host 2
  let host' := (Activity.replaced (textFile plainBody)).leaves textRekey added 0
  have hrun : Relation.ReflTransGen (CurrentStep textRekey) host host' := by
    refine (Relation.ReflTransGen.single ⟨.addSlot ciDraw ciMethods plainSpec, 2, hup, rfl⟩).tail ?_
    exact ⟨.replaced (textFile plainBody), 0, trivial, rfl⟩
  have hepoch : host'.epoch = some 1 := addSlot_plainBody rfl
  obtain ⟨creds, hcreds⟩ : ∃ creds, ((openBundleAtStartup textRekey.toDepositEnv
      ciMethods).exec (host', 0)).1 = .ok creds := startup_plainBody rfl hepoch
  obtain ⟨hbelow, hstart⟩ := recorded_epoch_never_decreases hrun
  exact ⟨host', hrun, ⟨creds, hcreds⟩, hbelow, hstart ciMethods 0 creds hcreds⟩

end Restored

end Basil
