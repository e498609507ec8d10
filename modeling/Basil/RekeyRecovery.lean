import Basil.EpochSidecar

/-!
# Recovery of an interrupted rekey

While the marker stands the disk is one of a few: with the old bundle nothing but the staging
directory has been touched, with the new bundle the candidate is staged or has taken the place of
the database.
-/

namespace Basil

open Basil.Bundle Command Durable Proc Spec FixedBytes

def Host.files (host : Host) : Host := { host with epoch := none, ledger := [] }

structure Transition (env : RekeyEnv) (host : Host) (draw : ResealDraw) (methods : MethodRegistry)
    (backendId : String) (newDek : FixedBytes 32) where
  oldDek : FixedBytes 32
  prepared : PreparedBundleRekey
  db : Bytes
  candidate : Bytes
  copied : Nat
  now : Nat
  prepares : ∃ s s', s.1.bundle = host.bundle ∧
    (prepareDbKeystoreRekey env draw methods backendId newDek).exec s = (.ok (oldDek, prepared), s')
  hasDb : host.db = some db
  copies : env.rekeyAt db host.wal host.tshm oldDek newDek = .ok (candidate, copied)
  verifies : env.verifyAt db host.wal host.tshm oldDek candidate newDek = .ok copied

section Recovery

variable {env : RekeyEnv} {host : Host} {draw : ResealDraw} {methods : MethodRegistry}
  {backendId : String} {newDek : FixedBytes 32}

def Transition.marker (t : Transition env host draw methods backendId newDek) : IntentMarker :=
  ⟨candidateName, env.blake3 t.candidate, env.blake3 t.db,
    ⟨t.prepared.binding.bundleId, t.prepared.binding.backendId, t.prepared.binding.preBundleB3,
      t.prepared.binding.postBundleB3, ⟨t.prepared.binding.preEpoch, t.prepared.binding.postEpoch⟩,
      t.copied⟩, t.now⟩

inductive Crashed (t : Transition env host draw methods backendId newDek) : Host → Prop
  | before (staging : Option (Option Bytes))
      (h : staging = some (some t.candidate) ∨ staging = some none ∨ staging = none) :
      Crashed t ⟨host.bundle, none, host.db, host.wal, host.tshm, staging, some t.marker, []⟩
  | rolledBack : Crashed t ⟨host.bundle, none, host.db, host.wal, host.tshm, none, none, []⟩
  | committed (wal tshm : Option Bytes) (hwal : wal = host.wal ∨ wal = none)
      (htshm : tshm = host.tshm ∨ tshm = none) :
      Crashed t ⟨some t.prepared.postBytes, none, host.db, wal, tshm, some (some t.candidate),
        some t.marker, []⟩
  | swapped (staging : Option (Option Bytes)) (h : staging = some none ∨ staging = none) :
      Crashed t ⟨some t.prepared.postBytes, none, some t.candidate, none, none, staging,
        some t.marker, []⟩
  | rolledForward :
      Crashed t ⟨some t.prepared.postBytes, none, some t.candidate, none, none, none, none, []⟩

namespace Transition

variable (t : Transition env host draw methods backendId newDek)

def beforeDisk (staging : Option (Option Bytes)) : Host :=
  ⟨host.bundle, none, host.db, host.wal, host.tshm, staging, some t.marker, []⟩

def committedDisk (wal tshm : Option Bytes) : Host :=
  ⟨some t.prepared.postBytes, none, host.db, wal, tshm, some (some t.candidate), some t.marker, []⟩

def swappedDisk (staging : Option (Option Bytes)) : Host :=
  ⟨some t.prepared.postBytes, none, some t.candidate, none, none, staging, some t.marker, []⟩

def finalDisk : Host :=
  ⟨some t.prepared.postBytes, none, some t.candidate, none, none, none, none, []⟩

end Transition

/-! ### Steps from a known disk -/

section Steps

variable {α β : Type} {v : Host} {K : Host → Prop} {R : β → Host → Prop}

def Guards (K : Host → Prop) (v : Host) (p : Command β) (R : β → Host → Prop) : Prop :=
  Spec (Known Host.files v) p R fun host => K host.files

theorem spec_readMarker {dbName : String} (hv : K v) {f : IntentMarker → Command β}
    (hf : ∀ marker, v.marker = some marker → Guards K v (f marker) R) :
    Guards K v (readIntentMarker dbName >>= f) R := by
  refine known_read (x := do
    let marker ← orErr v.marker (.rekey (.markerMissing (markerName dbName)))
    marker.validate.mapError .rekey
    return marker) hv ?_ ?_
  · intro host hhost
    obtain rfl : host.files = v := hhost
    rfl
  · intro marker hmarker
    simp only [eq_ok] at hmarker
    obtain ⟨found, hfound, -, -, rfl⟩ := hmarker
    exact hf found hfound

theorem spec_liveDb {missing : KeystoreRekeyError} (hv : K v) {f : Bytes → Command β}
    (hf : ∀ db, v.db = some db → Guards K v (f db) R) :
    Guards K v (liveDb missing >>= f) R := by
  refine known_read (x := orErr v.db (.rekey missing)) hv ?_ ?_
  · intro host hhost
    obtain rfl : host.files = v := hhost
    rfl
  · intro db hdb
    exact hf db (orErr_eq_ok.mp hdb)

theorem spec_stagedCandidate (hv : K v) {f : Option Bytes → Command β}
    (hf : Guards K v (f v.staging.join) R) :
    Guards K v (stagedCandidate >>= f) R := by
  refine known_read (x := .ok v.staging.join) hv ?_ ?_
  · intro host hhost
    obtain rfl : host.files = v := hhost
    rfl
  · intro candidate hcandidate
    cases hcandidate
    exact hf

theorem spec_update {g : Host → Host} (hg : ∀ host, (g host).files = g host.files) (hv : K v)
    (hv' : K (g v)) :
    Guards K v (Durable.write CommandError.stopped g) fun _ => Known Host.files (g v) := by
  refine known_write hv hv' ?_
  intro host hhost
  rw [hg, show host.files = v from hhost]

theorem spec_removeStagingDir (hv : K v) (hv' : K { v with staging := none }) :
    Guards K v removeStagingDir fun _ => Known Host.files { v with staging := none } :=
  (known_keeps hv (keeps_read _)).bind fun _ => spec_update (fun _ => rfl) hv hv'

end Steps

/-! ### Recovery -/

variable {t : Transition env host draw methods backendId newDek} {dbName : String}

variable {staging : Option (Option Bytes)} {v disk : Host}

theorem spec_finishRekey (h : staging = some none ∨ staging = none) :
    Guards (Crashed t) (t.swappedDisk staging) (finishRekey env dbName)
      fun _ => Known Host.files t.finalDisk := by
  have hv : Crashed t (t.swappedDisk staging) := .swapped staging h
  refine spec_readMarker hv fun marker _ => ?_
  refine spec_liveDb hv fun db _ => ?_
  refine known_check hv fun _ _ => ?_
  refine spec_stagedCandidate hv ?_
  refine known_check hv fun _ _ => ?_
  have hempty : Crashed t _ := .swapped none (.inr rfl)
  exact (spec_removeStagingDir hv hempty).bind fun _ => spec_update (fun _ => rfl) hempty .rolledForward

theorem spec_rollBack {marker : IntentMarker}
    (h : staging = some (some t.candidate) ∨ staging = some none ∨ staging = none) :
    Guards (Crashed t) (t.beforeDisk staging) (rollBack env dbName marker) fun _ =>
      Known Host.files ⟨host.bundle, none, host.db, host.wal, host.tshm, none, none, []⟩ := by
  have hv : Crashed t (t.beforeDisk staging) := .before staging h
  refine (known_keeps hv (keeps_pinMarker dbName marker _)).bind fun _ => ?_
  refine spec_liveDb hv fun db _ => ?_
  refine known_check hv fun _ _ => ?_
  have hunlinked : (staging.map fun _ => (none : Option Bytes)) = some (some t.candidate) ∨
      (staging.map fun _ => (none : Option Bytes)) = some none ∨
      (staging.map fun _ => (none : Option Bytes)) = none := by
    cases staging with
    | none => exact .inr (.inr rfl)
    | some candidate => exact .inr (.inl rfl)
  have hempty : Crashed t _ := .before none (.inr (.inr rfl))
  refine (spec_update (g := fun host => { host with staging := host.staging.map fun _ => none })
    (fun _ => rfl) hv (.before _ hunlinked)).bind fun _ => ?_
  refine (spec_removeStagingDir (.before _ hunlinked) hempty).bind fun _ => ?_
  exact spec_update (fun _ => rfl) hempty .rolledBack

theorem spec_unlinkOldSidecars {wal tshm : Option Bytes} (hwal : wal = host.wal ∨ wal = none)
    (htshm : tshm = host.tshm ∨ tshm = none) :
    Guards (Crashed t) (t.committedDisk wal tshm) unlinkOldSidecars
      fun _ => Known Host.files (t.committedDisk none none) := by
  have hwalGone : Crashed t (t.committedDisk none tshm) := .committed none tshm (.inr rfl) htshm
  refine (spec_update (g := fun host => { host with wal := none }) (fun _ => rfl)
    (.committed wal tshm hwal htshm) hwalGone).bind fun _ => ?_
  exact spec_update (g := fun host => { host with tshm := none }) (fun _ => rfl) hwalGone
    (.committed none none (.inr rfl) (.inr rfl))

theorem renameCandidate_files (host : Host) :
    (match host.staging with
      | some (some candidate) => { host with db := some candidate, staging := some none }
      | _ => host : Host).files =
    match host.files.staging with
      | some (some candidate) => { host.files with db := some candidate, staging := some none }
      | _ => host.files := by
  obtain ⟨_, _, db, _, _, staging, _, _⟩ := host
  rcases staging with _ | _ | candidate <;> rfl

theorem spec_renameCandidate :
    Guards (Crashed t) (t.committedDisk none none) renameCandidate
      fun _ => Known Host.files (t.swappedDisk (some none)) :=
  spec_update renameCandidate_files (.committed none none (.inr rfl) (.inr rfl))
    (.swapped (some none) (.inl rfl))

theorem spec_rollForward_committed {marker : IntentMarker} {wal tshm : Option Bytes}
    (hwal : wal = host.wal ∨ wal = none) (htshm : tshm = host.tshm ∨ tshm = none) :
    Guards (Crashed t) (t.committedDisk wal tshm) (rollForward env dbName marker)
      fun _ => Known Host.files t.finalDisk := by
  have hv : Crashed t (t.committedDisk wal tshm) := .committed wal tshm hwal htshm
  refine (known_keeps hv (keeps_pinMarker dbName marker _)).bind fun _ => ?_
  refine spec_stagedCandidate hv ?_
  refine known_check hv fun _ _ => ?_
  refine (spec_unlinkOldSidecars hwal htshm).bind fun _ => ?_
  refine spec_renameCandidate.bind fun _ => ?_
  exact (spec_finishRekey (.inl rfl)).bind fun _ => known_keeps .rolledForward (keeps_pure _)

theorem spec_rollForward_swapped {marker : IntentMarker} (h : staging = some none ∨ staging = none) :
    Guards (Crashed t) (t.swappedDisk staging) (rollForward env dbName marker)
      fun _ => Known Host.files t.finalDisk := by
  have hv : Crashed t (t.swappedDisk staging) := .swapped staging h
  have hjoin : (t.swappedDisk staging).staging.join = none := by rcases h with rfl | rfl <;> rfl
  refine (known_keeps hv (keeps_pinMarker dbName marker _)).bind fun _ => ?_
  refine spec_stagedCandidate hv ?_
  rw [hjoin]
  refine spec_liveDb hv fun db _ => ?_
  refine known_check hv fun _ _ => ?_
  exact (spec_finishRekey h).bind fun _ => known_keeps .rolledForward (keeps_pure _)

/-! ### Resuming -/

theorem phase_epoch {marker : IntentMarker} {identity : BundleRekeyIdentity} {phase : RecoveryPhase}
    (h : marker.phaseForAuthenticatedBundle identity = .ok phase) :
    (phase = .rollBack → identity.epoch = marker.binding.epochs.pre) ∧
      (phase = .rollForward → identity.epoch = marker.binding.epochs.post) := by
  simp only [IntentMarker.phaseForAuthenticatedBundle] at h
  split at h
  · rename_i hpre
    cases h
    exact ⟨fun _ => hpre.2.2, nofun⟩
  · split at h
    · rename_i hpost
      cases h
      exact ⟨nofun, fun _ => hpost.2.2⟩
    · cases h

theorem Transition.epochs (t : Transition env host draw methods backendId newDek) :
    ∃ bytes pre post, host.bundle = some bytes ∧ decode env.json bytes = .ok pre ∧
      decode env.json t.prepared.postBytes = .ok post ∧
      t.marker.binding.epochs.pre = pre.body.header.epoch ∧
      t.marker.binding.epochs.post = post.body.header.epoch ∧
      post.body.header.epoch = pre.body.header.epoch + 1 := by
  obtain ⟨_, _, hbundle, hprepare⟩ := t.prepares
  obtain ⟨bytes, pre, post, _, _, _, _, hbytes, hpre, -, -, -, hpost, hbinding⟩ :=
    prepareDbKeystoreRekey_ok hprepare
  obtain ⟨hdecode, -, hepoch, -⟩ := authenticatePreparedRekeyBundle_ok hpost
  refine ⟨bytes, pre, post, hbundle.symm.trans hbytes, hpre, hdecode, ?_, ?_, hepoch⟩
  · show t.prepared.binding.preEpoch = _
    rw [hbinding]
  · show t.prepared.binding.postEpoch = _
    rw [hbinding]

theorem spec_resumeIdentity {K : Host → Prop} (hv : K v) (methods' : MethodRegistry)
    (backendId' : String) :
    Guards K v (resumeDbKeystoreRekey env methods' backendId') fun result host =>
      (∃ bytes parsed, v.bundle = some bytes ∧ decode env.json bytes = .ok parsed ∧
        result.1.epoch = parsed.body.header.epoch) ∧ Known Host.files v host := by
  have hbundle : ∀ host, Known Host.files v host → host.bundle = v.bundle := by
    rintro host rfl
    rfl
  refine spec_readBundle_of hbundle hv fun bytes hbytes => ?_
  refine known_check hv fun parsed hparsed => ?_
  refine known_check hv fun creds _ => ?_
  refine known_check hv fun cred _ => ?_
  refine known_check hv fun _ _ => ?_
  refine (known_keeps hv (keeps_read _)).bind fun observed => ?_
  exact known_pure hv (φ := fun result : BundleRekeyIdentity × Option Nat => ∃ bytes parsed,
    v.bundle = some bytes ∧ decode env.json bytes = .ok parsed ∧
      result.1.epoch = parsed.body.header.epoch)
    ⟨bytes, parsed, hbytes, mapError_eq_ok.mp hparsed, rfl⟩

theorem spec_resumeRekey (hv : Crashed t v) (methods' : MethodRegistry) (backendId' : String) :
    Guards (Crashed t) v (resumeRekey env methods' backendId' dbName) fun _ final =>
      final.files = ⟨host.bundle, none, host.db, host.wal, host.tshm, none, none, []⟩ ∨
        final.files = t.finalDisk := by
  refine spec_readMarker hv fun marker hmarker => ?_
  refine (spec_resumeIdentity hv methods' backendId').bind fun (identity, observed) => ?_
  refine of_fact fun hidentity => ?_
  refine known_check hv fun phase hphase => ?_
  refine known_check hv fun _ _ => ?_
  have hsidecar : Keeps (Same Host.files) (writeEpoch identity.epoch) := keeps_write fun _ => rfl
  refine (known_keeps hv hsidecar).bind fun _ => ?_
  obtain ⟨bytes, parsed, hbytes, hparsed, hepoch⟩ := hidentity
  obtain ⟨preBytes, pre, post, hpreBytes, hpre, hpost, _, _, _⟩ := t.epochs
  obtain ⟨hback, hforward⟩ := phase_epoch (mapError_eq_ok.mp hphase)
  have hepoch : identity.epoch = parsed.body.header.epoch := hepoch
  -- The epoch of the bundle on disk rules out the other phase.
  have hold : bytes = preBytes → t.marker = marker → phase = .rollBack := by
    rintro rfl rfl
    obtain rfl : pre = parsed := Except.ok.inj (hpre.symm.trans hparsed)
    cases phase with
    | rollBack => rfl
    | rollForward =>
      have hpostEpoch := hforward rfl
      omega
  have hnew : bytes = t.prepared.postBytes → t.marker = marker → phase = .rollForward := by
    rintro rfl rfl
    obtain rfl : post = parsed := Except.ok.inj (hpost.symm.trans hparsed)
    cases phase with
    | rollForward => rfl
    | rollBack =>
      have hpreEpoch := hback rfl
      omega
  cases hv with
  | before staging h =>
    obtain rfl := hold (Option.some.inj (hbytes.symm.trans hpreBytes)) (Option.some.inj hmarker)
    refine (spec_rollBack h).bind fun _ => ?_
    exact (known_keeps .rolledBack (keeps_pure _)).imp (fun _ h => h) fun _ _ h => .inl h
  | rolledBack => cases hmarker
  | committed wal tshm hwal htshm =>
    obtain rfl := hnew (Option.some.inj hbytes).symm (Option.some.inj hmarker)
    refine (spec_rollForward_committed hwal htshm).bind fun _ => ?_
    exact (known_keeps .rolledForward (keeps_pure _)).imp (fun _ h => h) fun _ _ h => .inr h
  | swapped staging h =>
    obtain rfl := hnew (Option.some.inj hbytes).symm (Option.some.inj hmarker)
    refine (spec_rollForward_swapped h).bind fun _ => ?_
    exact (known_keeps .rolledForward (keeps_pure _)).imp (fun _ h => h) fun _ _ h => .inr h
  | rolledForward => cases hmarker

/-! ### The rekey itself -/

theorem keeps_prepareDbKeystoreRekey :
    Keeps (Same Host.files) (prepareDbKeystoreRekey env draw methods backendId newDek) := by
  refine keeps_bind keeps_readBundle fun preBytes => ?_
  refine keeps_check_bind fun parsed _ => ?_
  refine keeps_check_bind fun baseline _ => ?_
  refine keeps_check_bind fun oldCred _ => ?_
  refine keeps_check_bind fun oldDek _ => ?_
  refine keeps_bind (keeps_sealing (fun _ _ => rfl) _ _) fun postBytes => ?_
  refine keeps_check_bind fun post _ => ?_
  refine keeps_bind (keeps_read _) fun observed => ?_
  exact keeps_check_bind fun _ _ => keeps_pure _

def StagedCopy (env : RekeyEnv) (v : Host) (oldDek newDek : FixedBytes 32) (staged : Staged)
    (db candidate : Bytes) : Prop :=
  v.db = some db ∧ env.rekeyAt db v.wal v.tshm oldDek newDek = .ok (candidate, staged.copied) ∧
    env.verifyAt db v.wal v.tshm oldDek candidate newDek = .ok staged.copied ∧
    staged.candidateB3 = env.blake3 candidate ∧ staged.oldDbB3 = env.blake3 db

variable {v : Host} {oldDek : FixedBytes 32}

def Unmarked (host : Host) : Prop := host.marker = none

theorem spec_stageAndVerify (hv : Unmarked v) :
    Guards Unmarked { v with staging := some none } (stageAndVerify env oldDek newDek)
      fun staged disk => ∃ db candidate, StagedCopy env v oldDek newDek staged db candidate ∧
        Known Host.files { v with staging := some (some candidate) } disk := by
  have hmarker : Unmarked { v with staging := some none } := hv
  refine spec_liveDb hmarker fun db hdb => ?_
  refine known_read (x := .ok (v.wal, v.tshm)) hmarker ?_ ?_
  · intro disk hdisk
    have hfiles : disk.files = { v with staging := some none } := hdisk
    have hwal : disk.files.wal = v.wal := by rw [hfiles]
    have htshm : disk.files.tshm = v.tshm := by rw [hfiles]
    show Except.ok (disk.files.wal, disk.files.tshm) = _
    rw [hwal, htshm]
  rintro ⟨wal, tshm⟩ hsidecars
  cases hsidecars
  refine known_check hmarker fun (candidate, copied) hcopy => ?_
  have hstaged : Unmarked { v with staging := some (some candidate) } := hv
  refine (spec_update (g := fun disk => { disk with staging := some (some candidate) }) (fun _ => rfl)
    hmarker hstaged).bind fun _ => ?_
  refine known_check hstaged fun verified hverified => ?_
  refine known_check hstaged fun _ hcount => ?_
  obtain rfl : verified = copied := ensure_eq_ok.mp hcount
  have hcopied : StagedCopy env v oldDek newDek ⟨verified, env.blake3 candidate, env.blake3 db⟩ db
      candidate :=
    ⟨hdb, mapError_eq_ok.mp hcopy, mapError_eq_ok.mp hverified, rfl, rfl⟩
  refine (known_pure hstaged (φ := fun staged => StagedCopy env v oldDek newDek staged db candidate)
    hcopied).imp (fun _ h => h) ?_
  intro staged disk hend
  exact ⟨db, candidate, hend⟩

theorem spec_rekeyToStaging (hv : Unmarked v) :
    Guards Unmarked v (rekeyToStaging env oldDek newDek) fun staged disk =>
      ∃ db candidate, StagedCopy env v oldDek newDek staged db candidate ∧
        Known Host.files { v with staging := some (some candidate) } disk := by
  refine (known_keeps hv (keeps_read _)).bind fun _ => ?_
  refine (spec_update (g := fun disk => { disk with staging := some none }) (fun _ => rfl) hv
    hv).bind fun _ => ?_
  refine (spec_stageAndVerify hv).attempt.bind fun result => ?_
  cases result with
  | ok staged =>
    intro disk writes hdisk
    refine ⟨hdisk.2, ?_⟩
    intro staged' hstaged
    cases hstaged
    exact hdisk.1 staged rfl
  | error e =>
    -- The copy failed: the staging directory is removed and no marker was written.
    have hremove : Keeps (Same Host.marker)
        (removeStaging >>= fun _ => (fail e : Command Staged)) := by
      refine keeps_bind ?_ fun _ => keeps_fail _
      exact keeps_bind (keeps_write fun _ => rfl) fun _ => keeps_write fun _ => rfl
    intro disk writes hdisk
    have hunmarked := (hremove (disk, writes)).trans hdisk.2
    refine ⟨hunmarked, ?_⟩
    intro staged hok
    rw [exec_bind] at hok
    rcases hrun : removeStaging.exec (disk, writes) with ⟨_ | _, _⟩
    · rw [hrun] at hok
      cases hok
    · rw [hrun] at hok
      cases hok

theorem spec_swapCandidate {staged : Staged} :
    Guards (Crashed t) (t.committedDisk host.wal host.tshm) (swapCandidate env dbName staged)
      fun _ => Known Host.files (t.swappedDisk (some none)) := by
  have hv : Crashed t (t.committedDisk _ _) := .committed host.wal host.tshm (.inl rfl) (.inl rfl)
  refine spec_readMarker hv fun marker _ => ?_
  refine known_check hv fun _ _ => ?_
  refine (known_keeps hv (keeps_read _)).bind fun candidate => ?_
  refine known_check hv fun _ _ => ?_
  exact (spec_unlinkOldSidecars (.inl rfl) (.inl rfl)).bind fun _ => spec_renameCandidate

theorem spec_committing {staged : Staged} :
    Guards (Crashed t) (t.beforeDisk (some (some t.candidate)))
      (writeBundle t.prepared.postBytes >>= fun _ => writeEpoch t.prepared.binding.postEpoch >>=
        fun _ => swapCandidate env dbName staged >>= fun _ => finishRekey env dbName)
      fun _ => Known Host.files t.finalDisk := by
  have hcommitted : Crashed t (t.committedDisk _ _) := .committed host.wal host.tshm (.inl rfl) (.inl rfl)
  refine (spec_update (g := fun disk => { disk with bundle := some t.prepared.postBytes })
    (fun _ => rfl) (.before _ (.inl rfl)) hcommitted).bind fun _ => ?_
  have hsidecar : Keeps (Same Host.files) (writeEpoch t.prepared.binding.postEpoch) :=
    keeps_write fun _ => rfl
  refine (known_keeps hcommitted hsidecar).bind fun _ => ?_
  exact spec_swapCandidate.bind fun _ => spec_finishRekey (.inl rfl)

def Interrupted (env : RekeyEnv) (host : Host) (draw : ResealDraw) (methods : MethodRegistry)
    (backendId : String) (newDek : FixedBytes 32) (disk : Host) : Prop :=
  Unmarked disk ∨ ∃ t : Transition env host draw methods backendId newDek, Crashed t disk

theorem spec_writeIntentMarker (hhost : Unmarked host) (dbName : String) :
    Guards (Interrupted env host draw methods backendId newDek)
      { host.files with staging := some (some t.candidate) } (writeIntentMarker dbName t.marker)
      fun _ => Known Host.files (t.beforeDisk (some (some t.candidate))) := by
  have hv : Interrupted env host draw methods backendId newDek
      { host.files with staging := some (some t.candidate) } := .inl hhost
  refine known_check hv fun _ _ => ?_
  refine (known_keeps hv (keeps_read _)).bind fun _ => ?_
  exact spec_update (g := fun disk => { disk with marker := some t.marker }) (fun _ => rfl) hv
    (.inr ⟨t, .before _ (.inl rfl)⟩)

theorem spec_freshRekey (hhost : Unmarked host) {now : Nat} :
    Guards (Interrupted env host draw methods backendId newDek) host.files
      (freshRekey env draw methods backendId dbName newDek now) fun _ _ => True := by
  have hunmarked : Unmarked host.files := hhost
  have hv : Interrupted env host draw methods backendId newDek host.files := .inl hunmarked
  refine (known_keeps hv (keeps_read _)).bind fun _ => ?_
  refine (known_run hv keeps_prepareDbKeystoreRekey).bind fun (oldDek, prepared) => ?_
  refine of_fact fun hprepares => ?_
  refine bind ((spec_rekeyToStaging hunmarked).weaken fun _ h => Or.inl h) fun staged => ?_
  obtain ⟨copied, candidateB3, oldDbB3⟩ := staged
  rintro disk writes ⟨db, candidate, ⟨hdb, hcopy, hverify, hcandidate, hold⟩, hdisk⟩
  obtain rfl : candidateB3 = env.blake3 candidate := hcandidate
  obtain rfl : oldDbB3 = env.blake3 db := hold
  have hbundle : ∃ s s', s.1.bundle = host.bundle ∧
      (prepareDbKeystoreRekey env draw methods backendId newDek).exec s =
        (.ok (oldDek, prepared), s') := by
    obtain ⟨s, s', hfiles, hexec⟩ := hprepares
    exact ⟨s, s', by rw [show s.1.bundle = s.1.files.bundle from rfl, hfiles]; rfl, hexec⟩
  let t : Transition env host draw methods backendId newDek :=
    ⟨oldDek, prepared, db, candidate, copied, now, hbundle, hdb, hcopy, hverify⟩
  have hstaged : Interrupted env host draw methods backendId newDek
      { host.files with staging := some (some t.candidate) } := .inl hhost
  have hcommitting : Guards (Interrupted env host draw methods backendId newDek)
      (t.beforeDisk (some (some t.candidate))) (writeBundle t.prepared.postBytes >>= fun _ =>
        writeEpoch t.prepared.binding.postEpoch >>= fun _ => swapCandidate env dbName
          ⟨copied, env.blake3 candidate, env.blake3 db⟩ >>= fun _ => finishRekey env dbName)
      fun _ _ => True :=
    (spec_committing.imp (fun _ h => h) fun _ _ _ => trivial).weaken fun _ h => .inr ⟨t, h⟩
  have hmarking := known_check hstaged
    (x := t.marker.binding.validateDetail.mapError fun detail =>
      CommandError.rekey (.bundleBindingInvalid detail))
    fun _ _ => (spec_writeIntentMarker hhost dbName).bind fun _ => hcommitting
  exact hmarking disk writes hdisk

/-! ### Runs -/

def ResumeStep (env : RekeyEnv) (dbName : String) (disk disk' : Host) : Prop :=
  ∃ methods backendId writes, disk' = (resumeRekey env methods backendId dbName).leaves disk writes

theorem spec_resumeRekey_unmarked (hv : Unmarked v) (methods' : MethodRegistry)
    (backendId' : String) :
    Guards Unmarked v (resumeRekey env methods' backendId' dbName) fun _ _ => False := by
  refine spec_readMarker hv fun marker hfound => ?_
  rw [show v.marker = none from hv] at hfound
  cases hfound

theorem interrupted_resumeStep {disk' : Host} (hstep : ResumeStep env dbName disk disk')
    (h : Interrupted env host draw methods backendId newDek disk.files) :
    Interrupted env host draw methods backendId newDek disk'.files := by
  obtain ⟨methods', backendId', writes, rfl⟩ := hstep
  rcases h with hunmarked | ⟨t, hcrashed⟩
  · exact .inl (spec_resumeRekey_unmarked hunmarked methods' backendId' disk writes rfl).1
  · exact .inr ⟨t, (spec_resumeRekey hcrashed methods' backendId' disk writes rfl).1⟩

theorem interrupted_of_run {now writes : Nat} (hhost : Unmarked host) {later : Host}
    (hrun : Relation.ReflTransGen (ResumeStep env dbName)
      ((freshRekey env draw methods backendId dbName newDek now).leaves host writes) later) :
    Interrupted env host draw methods backendId newDek later.files := by
  induction hrun with
  | refl => exact (spec_freshRekey hhost host writes rfl).1
  | tail _ hstep ih => exact interrupted_resumeStep hstep ih

/-! ### What a recovery leaves -/

structure OpensBy (env : RekeyEnv)
    (opens : Bytes → Option Bytes → Option Bytes → FixedBytes 32 → Prop) : Prop where
  source : ∀ {db wal tshm old new copy}, env.rekeyAt db wal tshm old new = .ok copy →
    opens db wal tshm old
  copy : ∀ {db wal tshm old candidate new count},
    env.verifyAt db wal tshm old candidate new = .ok count → opens candidate none none new

def InStep (env : RekeyEnv) (opens : Bytes → Option Bytes → Option Bytes → FixedBytes 32 → Prop)
    (methods : MethodRegistry) (backendId : String) (disk : Host) : Prop :=
  ∃ bytes parsed creds dek db, disk.bundle = some bytes ∧ decode env.json bytes = .ok parsed ∧
    unlockCreds env.toDepositEnv parsed methods = .ok creds ∧
    creds.backends.get? backendId = some (.dbKeystoreDek dek) ∧ disk.db = some db ∧
    opens db disk.wal disk.tshm dek

/-- The bundle, the database and its sidecars are those the rekey found. -/
structure RolledBack (host disk : Host) : Prop where
  bundle : disk.bundle = host.bundle
  db : disk.db = host.db
  wal : disk.wal = host.wal
  tshm : disk.tshm = host.tshm

structure RolledForward (t : Transition env host draw methods backendId newDek) (disk : Host) :
    Prop where
  bundle : disk.bundle = some t.prepared.postBytes
  db : disk.db = some t.candidate
  wal : disk.wal = none
  tshm : disk.tshm = none

variable {opens : Bytes → Option Bytes → Option Bytes → FixedBytes 32 → Prop}

theorem inStep_rolledBack (t : Transition env host draw methods backendId newDek)
    (hopens : OpensBy env opens) (h : RolledBack host disk) :
    InStep env opens methods backendId disk := by
  obtain ⟨_, _, hbundle, hprepare⟩ := t.prepares
  obtain ⟨bytes, pre, _, baseline, _, _, _, hbytes, hpre, hopen, hcred, -⟩ :=
    prepareDbKeystoreRekey_ok hprepare
  refine ⟨bytes, pre, (applyAuthorizedDeposits env.toDepositEnv pre baseline).1, t.oldDek, t.db, ?_,
    hpre, ?_, ?_, ?_, ?_⟩
  · rw [h.bundle, ← hbundle, hbytes]
  · rw [unlockCreds, hopen]
    rfl
  · rw [applied_get?, hcred]
  · rw [h.db, t.hasDb]
  · rw [h.wal, h.tshm]
    exact hopens.source t.copies

theorem inStep_rolledForward (t : Transition env host draw methods backendId newDek)
    (hbox : OpensAsSealed env.toUnlockEnv) (hopens : OpensBy env opens) (h : RolledForward t disk) :
    InStep env opens methods backendId disk := by
  obtain ⟨_, _, -, hprepare⟩ := t.prepares
  obtain ⟨_, _, post, _, _, _, _, -, -, -, -, hreseal, hpost, -⟩ :=
    prepareDbKeystoreRekey_ok hprepare
  obtain ⟨hdecode, -, -, reopened, hreopened, -⟩ := authenticatePreparedRekeyBundle_ok hpost
  have hunlock : unlockCreds env.toDepositEnv post methods =
      .ok (applyAuthorizedDeposits env.toDepositEnv post reopened).1 := by
    rw [unlockCreds, hreopened]
    rfl
  refine ⟨t.prepared.postBytes, post, _, newDek, t.candidate, h.bundle, hdecode, hunlock, ?_, h.db, ?_⟩
  · rw [prepared_get? hbox hreseal hpost hunlock, if_pos rfl]
  · rw [h.wal, h.tshm]
    exact hopens.copy t.verifies

theorem not_rolledBack_rolledForward (t : Transition env host draw methods backendId newDek)
    (hback : RolledBack host disk) : ¬ RolledForward t disk := by
  intro hforward
  obtain ⟨bytes, pre, post, hbytes, hpre, hpost, -, -, _⟩ := t.epochs
  obtain rfl : bytes = t.prepared.postBytes :=
    Option.some.inj (hbytes.symm.trans (hback.bundle.symm.trans hforward.bundle))
  obtain rfl : pre = post := Except.ok.inj (hpre.symm.trans hpost)
  omega

theorem storeOpen_fails (hmarker : disk.marker ≠ none) (dbName : String)
    (openDb : Host → Except CommandError Unit) (writes : Nat) :
    ((storeOpen dbName openDb).exec (disk, writes)).1 =
      .error (.rekey (.rekeyInProgress (markerName dbName))) := by
  have hguard : (guardStoreOpen dbName).exec (disk, writes) =
      (.error (.rekey (.rekeyInProgress (markerName dbName))), (disk, writes)) := by
    show (ensure (disk.marker.isNone = true) _, _) = _
    rw [ensure_neg (by simpa using hmarker)]
  rw [storeOpen, exec_bind_of_error hguard]

theorem rolledBack_of_files
    (h : disk.files = ⟨host.bundle, none, host.db, host.wal, host.tshm, none, none, []⟩) :
    RolledBack host disk ∧ disk.staging = none ∧ disk.marker = none := by
  obtain ⟨bundle, _, db, wal, tshm, staging, marker, _⟩ := disk
  obtain ⟨rfl, -, rfl, rfl, rfl, rfl, rfl, -⟩ := h
  exact ⟨⟨rfl, rfl, rfl, rfl⟩, rfl, rfl⟩

theorem rolledForward_of_files
    (h : disk.files = t.finalDisk) :
    RolledForward t disk ∧ disk.staging = none ∧ disk.marker = none := by
  obtain ⟨_, _, _, _, _, staging, marker, _⟩ := disk
  obtain ⟨rfl, -, rfl, rfl, rfl, rfl, rfl, -⟩ := h
  exact ⟨⟨rfl, rfl, rfl, rfl⟩, rfl, rfl⟩

theorem interrupted_rekey_recovers (hbox : OpensAsSealed env.toUnlockEnv)
    (hopens : OpensBy env opens) (hhost : host.marker = none) {now writes : Nat} {later : Host}
    (hrun : Relation.ReflTransGen (ResumeStep env dbName)
      ((freshRekey env draw methods backendId dbName newDek now).leaves host writes) later) :
    (later.marker ≠ none → ∀ openDb writes', ((storeOpen dbName openDb).exec (later, writes')).1 =
      .error (.rekey (.rekeyInProgress (markerName dbName)))) ∧
    ∀ methods' backendId' writes' outcome,
      ((resumeRekey env methods' backendId' dbName).exec (later, writes')).1 = .ok outcome →
      let final := (resumeRekey env methods' backendId' dbName).leaves later writes'
      Xor (RolledBack host final)
        (∃ t : Transition env host draw methods backendId newDek, RolledForward t final) ∧
      final.staging = none ∧ final.marker = none ∧ InStep env opens methods backendId final := by
  refine ⟨fun hmarker openDb writes' => storeOpen_fails hmarker dbName openDb writes', ?_⟩
  intro methods' backendId' writes' outcome hresume final
  rcases interrupted_of_run hhost hrun with hunmarked | ⟨t, hcrashed⟩
  · exact ((spec_resumeRekey_unmarked hunmarked methods' backendId' later writes' rfl).2 outcome
      hresume).elim
  rcases (spec_resumeRekey hcrashed methods' backendId' later writes' rfl).2 outcome hresume with
    hold | hnew
  · obtain ⟨hback, hstaging, hmarker⟩ := rolledBack_of_files hold
    refine ⟨.inl ⟨hback, ?_⟩, hstaging, hmarker, inStep_rolledBack t hopens hback⟩
    rintro ⟨t', hforward⟩
    exact not_rolledBack_rolledForward t' hback hforward
  · obtain ⟨hforward, hstaging, hmarker⟩ := rolledForward_of_files hnew
    refine ⟨.inr ⟨⟨t, hforward⟩, ?_⟩, hstaging, hmarker, inStep_rolledForward t hbox hopens hforward⟩
    intro hback
    exact not_rolledBack_rolledForward t hback hforward

end Recovery

/-! ### A stop right after the commit -/

section Stopped

noncomputable def keystoreHost : Host :=
  ⟨some (textFile keystoreBody), some 1, some [7], some [9], none, none, none, []⟩

noncomputable def keystoreMarker : IntentMarker :=
  ⟨candidateName, textRekey.blake3 [8], textRekey.blake3 [7],
    ⟨ciHeader.bundleId, "ks", textRekey.blake3 (textFile keystoreBody),
      textRekey.blake3 (textFile rekeyedBody), ⟨1, 2⟩, 1⟩, 0⟩

theorem blake3_textFile {body : BundleBody}
    (h : decode textRekey.json (textFile body) = .ok ⟨body⟩) :
    textRekey.blake3 (textFile body) = fill 32 (UInt8.ofNat body.header.epoch) := by
  have hdecode : decode jsonTexts (textFile body) = .ok ⟨body⟩ := h
  simp [textRekey, hdecode]

theorem keystoreMarker_binding : keystoreMarker.binding.validateDetail = .ok () := by
  have hdigests : keystoreMarker.binding.preBundleB3 ≠ keystoreMarker.binding.postBundleB3 := by
    show textRekey.blake3 (textFile keystoreBody) ≠ textRekey.blake3 (textFile rekeyedBody)
    rw [blake3_textFile keystoreBody_decode, blake3_textFile rekeyedBody_decode]
    decide
  have hname : keystoreMarker.binding.backendId ≠ "" := by
    decide
  have hsize : keystoreMarker.binding.backendId.utf8ByteSize ≤ backendIdMaxBytes := by
    decide
  have hepochs : keystoreMarker.binding.epochs.pre < keystoreMarker.binding.epochs.post := by
    decide
  simp [BundleTransitionBinding.validateDetail, ensure_pos hname, ensure_pos hsize, ensure_pos hepochs,
    ensure_pos hdigests]

theorem keystoreMarker_valid : keystoreMarker.validate = .ok () := by
  have hname : keystoreMarker.candidateName = candidateName := rfl
  simp [IntentMarker.validate, ensure_pos hname, keystoreMarker_binding]

noncomputable def stoppedHost (ledger : Ledger) : Host :=
  ⟨some (textFile rekeyedBody), some 1, some [7], some [9], none, some (some [8]),
    some keystoreMarker, ledger⟩

theorem freshRekey_stops :
    ∃ ledger, (freshRekey textRekey ciDraw ciMethods "ks" "keystore.db" (fill 32 4) 0).leaves
      keystoreHost 4 = stoppedHost ledger := by
  obtain ⟨ledger, hprepare⟩ : ∃ ledger, (prepareDbKeystoreRekey textRekey ciDraw ciMethods "ks"
      (fill 32 4)).exec (keystoreHost, 4) = (.ok (fill 32 3, keystorePrepared),
        ({ keystoreHost with ledger := ledger }, 4)) := exec_prepare_keystoreBody rfl rfl
  refine ⟨ledger, congrArg (fun r => r.2.1)
    (?_ : _ = ((Except.error CommandError.stopped : Except CommandError Unit),
      (stoppedHost ledger, 0)))⟩
  have hguard : (Durable.read fun host : Host => ensure (host.marker.isNone = true)
      (.rekey (.rekeyInProgress (markerName "keystore.db"))) : Command Unit).exec (keystoreHost, 4) =
      (.ok (), (keystoreHost, 4)) := rfl
  have hstage : (rekeyToStaging textRekey (fill 32 3) (fill 32 4)).exec
      ({ keystoreHost with ledger := ledger }, 4) =
      (.ok ⟨1, textRekey.blake3 [8], textRekey.blake3 [7]⟩,
        ({ keystoreHost with ledger := ledger, staging := some (some [8]) }, 2)) := rfl
  have hmarker : (writeIntentMarker "keystore.db" keystoreMarker).exec
      ({ keystoreHost with ledger := ledger, staging := some (some [8]) }, 2) =
      (.ok (), ({ keystoreHost with
        ledger := ledger, staging := some (some [8]), marker := some keystoreMarker }, 1)) := by
    refine exec_check_step (mapError_eq_ok.mpr keystoreMarker_valid) ?_
    rfl
  refine exec_bind_step hguard ?_
  refine exec_bind_step hprepare ?_
  refine exec_bind_step hstage ?_
  refine exec_check_step (mapError_eq_ok.mpr keystoreMarker_binding) ?_
  refine exec_bind_step hmarker ?_
  rfl

/-! The resume reads the new bundle, so it rolls forward. -/

theorem exec_readIntentMarker {host : Host} {writes : Nat} (h : host.marker = some keystoreMarker) :
    (readIntentMarker "keystore.db").exec (host, writes) = (.ok keystoreMarker, (host, writes)) := by
  show ((do
    let marker ← orErr host.marker (.rekey (.markerMissing (markerName "keystore.db")))
    marker.validate.mapError .rekey
    return marker : Except CommandError IntentMarker), (host, writes)) = _
  simp only [h, orErr, ok_bind, keystoreMarker_valid, mapError_ok]
  rfl

theorem exec_resumeDb (ledger : Ledger) (writes : Nat) :
    (resumeDbKeystoreRekey textRekey ciMethods "ks").exec (stoppedHost ledger, writes) =
      (.ok (⟨ciHeader.bundleId, "ks", 2, textRekey.blake3 (textFile rekeyedBody)⟩, some 1),
        (stoppedHost ledger, writes)) := by
  have hunlock : unlockCreds textRekey.toDepositEnv ⟨rekeyedBody⟩ ciMethods =
      .ok (applyAuthorizedDeposits textDeposits ⟨rekeyedBody⟩ rekeyedCreds).1 := unlockCreds_textBody
  refine exec_bind_step (exec_readBundle_ok.mpr ⟨rfl, rfl⟩) ?_
  refine exec_bind_step (exec_opened_ok.mpr ⟨rekeyedBody_decode, rfl⟩) ?_
  refine exec_bind_step (exec_opened_ok.mpr ⟨hunlock, rfl⟩) ?_
  rfl

theorem keystoreMarker_phase :
    keystoreMarker.phaseForAuthenticatedBundle
      ⟨ciHeader.bundleId, "ks", 2, textRekey.blake3 (textFile rekeyedBody)⟩ = .ok .rollForward := by
  simp only [IntentMarker.phaseForAuthenticatedBundle]
  rw [if_neg, if_pos]
  · exact ⟨⟨rfl, rfl⟩, rfl, rfl⟩
  · rintro ⟨-, -, hepoch⟩
    exact absurd hepoch (show ¬ 2 = 1 by decide)

noncomputable def swappedHost (ledger : Ledger) : Host :=
  ⟨some (textFile rekeyedBody), some 2, some [8], none, none, some none, some keystoreMarker, ledger⟩

noncomputable def recoveredHost (ledger : Ledger) : Host :=
  { swappedHost ledger with staging := none, marker := none }

theorem exec_finishRekey (ledger : Ledger) :
    (finishRekey textRekey "keystore.db").exec (swappedHost ledger, 2) =
      (.ok (), (recoveredHost ledger, 0)) := by
  have hdb : (liveDb (.invalidPhase "cannot finish rekey without a live database after swap")).exec
      (swappedHost ledger, 2) = (.ok [8], (swappedHost ledger, 2)) := rfl
  refine exec_bind_step (exec_readIntentMarker rfl) ?_
  refine exec_bind_step hdb ?_
  refine exec_check_step (ensure_pos rfl _) ?_
  rfl

theorem exec_rollForward {host : Host} (ledger : Ledger)
    (h : { stoppedHost ledger with epoch := some 2 } = host) :
    (rollForward textRekey "keystore.db" keystoreMarker).exec (host, 5) =
      (.ok .resumedSwap, (recoveredHost ledger, 0)) := by
  have hmarker : host.marker = some keystoreMarker := h ▸ rfl
  have hpin : (pinMarker "keystore.db" keystoreMarker
      "the on-disk intent marker changed before roll-forward").exec (host, 5) = (.ok (), (host, 5)) := by
    refine exec_check_step (mapError_eq_ok.mpr keystoreMarker_valid) ?_
    refine exec_bind_step (exec_readIntentMarker hmarker) ?_
    exact exec_check_ok.mpr ⟨ensure_pos rfl _, rfl⟩
  have hcandidate : stagedCandidate.exec (host, 5) = (.ok (some [8]), (host, 5)) := h ▸ rfl
  have hunlink : unlinkOldSidecars.exec (host, 5) =
      (.ok (), ({ host with wal := none, tshm := none }, 3)) := rfl
  have hrename : renameCandidate.exec ({ host with wal := none, tshm := none }, 3) =
      (.ok (), (swappedHost ledger, 2)) := h ▸ rfl
  refine exec_bind_step hpin ?_
  refine exec_bind_step hcandidate ?_
  refine exec_check_step (ensure_pos rfl _) ?_
  refine exec_bind_step hunlink ?_
  refine exec_bind_step hrename ?_
  exact exec_bind_step (exec_finishRekey ledger) rfl

theorem resumeRekey_completes (ledger : Ledger) :
    ((resumeRekey textRekey ciMethods "ks" "keystore.db").exec (stoppedHost ledger, 6)).1 =
      .ok (some .resumedSwap) := by
  have hepoch : (writeEpoch 2).exec (stoppedHost ledger, 6) =
      (.ok (), ({ stoppedHost ledger with epoch := some 2 }, 5)) := rfl
  refine congrArg Prod.fst (?_ : _ = (Except.ok (some RecoveryOutcome.resumedSwap),
    (recoveredHost ledger, 0)))
  refine exec_bind_step (exec_readIntentMarker rfl) ?_
  refine exec_bind_step (exec_resumeDb ledger 6) ?_
  refine exec_check_step (mapError_eq_ok.mpr keystoreMarker_phase) ?_
  refine exec_check_step (ensure_pos (by decide) _) ?_
  refine exec_bind_step hepoch ?_
  exact exec_bind_step (exec_rollForward ledger rfl) rfl

def keystoreOpens (db : Bytes) (_ _ : Option Bytes) (dek : FixedBytes 32) : Prop :=
  (db = [7] ∧ dek = fill 32 3) ∨ (db = [8] ∧ dek = fill 32 4)

theorem textRekey_opensBy : OpensBy textRekey keystoreOpens where
  source := by
    intro db wal tshm old new copy h
    change (if db = [7] ∧ old = fill 32 3 then _ else _) = _ at h
    split at h
    · rename_i hkey
      exact .inl hkey
    · cases h
  copy := by
    intro db wal tshm old candidate new count h
    change (if candidate = [8] ∧ new = fill 32 4 then _ else _) = _ at h
    split at h
    · rename_i hkey
      exact .inr hkey
    · cases h

theorem stopped_keystore_recovers :
    ∃ ledger, (freshRekey textRekey ciDraw ciMethods "ks" "keystore.db" (fill 32 4) 0).leaves
        keystoreHost 4 = stoppedHost ledger ∧
      ((resumeRekey textRekey ciMethods "ks" "keystore.db").exec (stoppedHost ledger, 6)).1 =
        .ok (some .resumedSwap) ∧
      let final := (resumeRekey textRekey ciMethods "ks" "keystore.db").leaves (stoppedHost ledger) 6
      Xor (RolledBack keystoreHost final)
        (∃ t : Transition textRekey keystoreHost ciDraw ciMethods "ks" (fill 32 4),
          RolledForward t final) ∧
      final.staging = none ∧ final.marker = none ∧
        InStep textRekey keystoreOpens ciMethods "ks" final := by
  have hbox : OpensAsSealed textRekey.toUnlockEnv := textUnlock_opensAsSealed
  obtain ⟨ledger, hstopped⟩ := freshRekey_stops
  have hrun : Relation.ReflTransGen (ResumeStep textRekey "keystore.db")
      ((freshRekey textRekey ciDraw ciMethods "ks" "keystore.db" (fill 32 4) 0).leaves
        keystoreHost 4) (stoppedHost ledger) := by
    rw [hstopped]
  refine ⟨ledger, hstopped, resumeRekey_completes ledger, ?_⟩
  exact (interrupted_rekey_recovers hbox textRekey_opensBy rfl hrun).2 ciMethods "ks" 6 _
    (resumeRekey_completes ledger)

end Stopped

end Basil
