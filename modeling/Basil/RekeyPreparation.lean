import Basil.DepositPromotion
import Basil.KeystoreRekey

/-!
# What a prepared rekey bundle unlocks to

A record made for the next epoch would take over in the prepared bundle, so the prepared bundle is
read back and refused when a review in it is effective.
-/

namespace Basil

open Basil.Bundle Command FixedBytes Proc List

/-! ### A review without effective deposits -/

section Reviews

variable {env : DepositEnv} {parsed : ParsedBundle} {creds : CredBundle}

theorem applyAuthorizedDeposits_snd :
    (applyAuthorizedDeposits env parsed creds).2 = reviewDeposits env parsed creds := by
  unfold applyAuthorizedDeposits reviewDeposits
  obtain ⟨reviews, candidates⟩ := reviewAuthorized env parsed creds
  show ((selectEffective candidates).foldl _ (creds, reviews)).2 =
    (selectEffective candidates).foldl markEffective reviews
  generalize selectEffective candidates = chosen
  induction chosen generalizing creds reviews with
  | nil => rfl
  | cons c chosen ih => exact ih _

theorem reviewLog_length (header : Header) (ingest : FixedBytes 32) (index : Nat)
    (records : List DepositRecord) :
    (reviewLog env header creds ingest index records).1.length = records.length := by
  induction records generalizing index with
  | nil => rfl
  | cons record records ih =>
    simp only [reviewLog]
    split
    · simp [ih]
    · split <;> simp [ih]

theorem reviewAuthorized_length :
    (reviewAuthorized env parsed creds).1.length = parsed.body.deposits.length := by
  unfold reviewAuthorized
  cases creds.deposit.ingestPrivateKey with
  | none => simp
  | some ingest => exact reviewLog_length _ _ _ _

theorem marked_stays (chosen : List Candidate) {reviews : List DepositReview} {index : Nat}
    (h : ∃ r, reviews[index]? = some r ∧ r.status = .effective) :
    ∃ r, (chosen.foldl markEffective reviews)[index]? = some r ∧ r.status = .effective := by
  induction chosen generalizing reviews with
  | nil => exact h
  | cons c chosen ih =>
    refine ih ?_
    obtain ⟨r, hr, hstatus⟩ := h
    rw [markEffective, getElem?_modify, hr]
    by_cases hindex : c.index = index
    · exact ⟨{ r with status := .effective }, by simp [hindex], rfl⟩
    · exact ⟨r, by simp [hindex], hstatus⟩

theorem chosen_marked {chosen : List Candidate} {reviews : List DepositReview} {c : Candidate}
    (hmem : c ∈ chosen) (hindex : c.index < reviews.length) :
    ∃ r, (chosen.foldl markEffective reviews)[c.index]? = some r ∧ r.status = .effective := by
  induction chosen generalizing reviews with
  | nil => cases hmem
  | cons d chosen ih =>
    rcases mem_cons.mp hmem with rfl | hmem
    · refine marked_stays chosen ?_
      rw [markEffective, getElem?_modify, getElem?_eq_getElem hindex]
      exact ⟨{ reviews[c.index] with status := .effective }, by simp, rfl⟩
    · exact ih hmem (by simpa [markEffective] using hindex)

theorem candidate_index_lt {c : Candidate} (h : c ∈ (reviewAuthorized env parsed creds).2) :
    c.index < (reviewAuthorized env parsed creds).1.length := by
  rw [reviewAuthorized_candidates] at h
  obtain ⟨_, hrecord, -⟩ := mem_candidates.mp h
  obtain ⟨hlt, -⟩ := List.getElem?_eq_some_iff.mp hrecord
  rw [List.length_take] at hlt
  rw [reviewAuthorized_length]
  omega

theorem effectiveDeposit_eq_none
    (h : ∀ r ∈ reviewDeposits env parsed creds, r.status ≠ .effective) (b : String) :
    effectiveDeposit env parsed creds b = none := by
  cases hdeposit : effectiveDeposit env parsed creds b with
  | none => rfl
  | some c =>
    have hchosen : c ∈ selectEffective (reviewAuthorized env parsed creds).2 :=
      mem_map.mpr ⟨(b, c), OrdMap.get?_eq_some_iff.mp hdeposit, rfl⟩
    have hindex := candidate_index_lt (byBackend_greatest reviewAuthorized_inOrder hdeposit).1.1
    obtain ⟨r, hr, hstatus⟩ := chosen_marked hchosen hindex
    exact absurd hstatus (h r (mem_of_getElem? hr))

end Reviews

/-! ### The prepared bundle -/

section Preparation

variable {env : RekeyEnv} {draw : ResealDraw} {methods : MethodRegistry} {backendId : String}
  {oldDek newDek : FixedBytes 32} {pre post : ParsedBundle} {creds : CredBundle}

theorem dekOf_eq_some {cred : BackendCred} {dek : FixedBytes 32} :
    dekOf cred = some dek ↔ cred = .dbKeystoreDek dek := by
  cases cred <;> simp [dekOf]

theorem authenticatePreparedRekeyBundle_ok {postBytes : Bytes}
    (h : authenticatePreparedRekeyBundle env pre methods creds postBytes backendId = .ok post) :
    decode env.json postBytes = .ok post ∧
      post.body.header.bundleId = pre.body.header.bundleId ∧
      post.body.header.epoch = pre.body.header.epoch + 1 ∧
      ∃ reopened, openBundle env.toUnlockEnv post methods = .ok reopened ∧
        ∀ r ∈ reviewDeposits env.toDepositEnv post reopened, r.status ≠ .effective := by
  simp only [authenticatePreparedRekeyBundle, eq_ok] at h
  obtain ⟨_, hdecode, -, hid, -, -, -, hepoch, -, -, reopened, hopen, -, heffective, -, -, -, -,
    -, -, -, -, rfl⟩ := h
  refine ⟨hdecode, hid, hepoch, reopened, hopen, ?_⟩
  rw [← applyAuthorizedDeposits_snd]
  intro r hr hstatus
  refine heffective (any_eq_true.mpr ⟨r, hr, ?_⟩)
  rw [hstatus]
  rfl

theorem resealed_opens (hbox : OpensAsSealed env.toUnlockEnv) {payload : CredBundle}
    {deposits : List DepositRecord} {ledger ledger' : Ledger} {file : Bytes}
    (hreseal : (resealPayloadBumpEpochWithDeposits env.toUnlockEnv draw pre methods payload
      deposits).exec ledger = (.ok file, ledger'))
    (hpost : decode env.json file = .ok post) {methods' : MethodRegistry} {creds' : CredBundle}
    (hopen : openBundle env.toUnlockEnv post methods' = .ok creds') : creds' = payload := by
  obtain ⟨_, _, _, -, hseal, rfl⟩ := resealPayloadBumpEpochWithDeposits_ok hreseal
  rw [decode_encoded] at hpost
  obtain ⟨-, -, -, rfl⟩ := checkBody_ok.mp hpost
  simp only [openBundle, eq_ok, decryptPayload] at hopen
  obtain ⟨_, -, _, -, _, hplaintext, hread⟩ := hopen
  rw [hbox hseal hplaintext, env.json.payload_read] at hread
  exact (Except.ok.inj hread).symm

theorem prepareDbKeystoreRekey_ok {s s' : Durable Host} {prepared : PreparedBundleRekey}
    (h : (prepareDbKeystoreRekey env draw methods backendId newDek).exec s =
      (.ok (oldDek, prepared), s')) :
    ∃ bytes pre post baseline deposits ledger ledger',
      s.1.bundle = some bytes ∧ decode env.json bytes = .ok pre ∧
      openBundle env.toUnlockEnv pre methods = .ok baseline ∧
      credInUse env.toDepositEnv pre baseline backendId = some (.dbKeystoreDek oldDek) ∧
      (resealPayloadBumpEpochWithDeposits env.toUnlockEnv draw pre methods
        ((applyAuthorizedDeposits env.toDepositEnv pre baseline).1.set backendId
          (.dbKeystoreDek newDek)) deposits).exec ledger = (.ok prepared.postBytes, ledger') ∧
      authenticatePreparedRekeyBundle env pre methods
        ((applyAuthorizedDeposits env.toDepositEnv pre baseline).1.set backendId
          (.dbKeystoreDek newDek)) prepared.postBytes backendId = .ok post ∧
      prepared.binding = ⟨pre.body.header.bundleId, backendId, pre.body.header.epoch,
        post.body.header.epoch, env.blake3 bytes, env.blake3 prepared.postBytes⟩ := by
  simp only [prepareDbKeystoreRekey, exec_ok, exec_readBundle_ok, exec_opened_ok, exec_sealing_ok,
    exec_readEpoch_ok, exec_ensureThat_ok, orErr_eq_ok] at h
  obtain ⟨bytes, _, ⟨hbytes, rfl⟩, pre, _, ⟨hpre, rfl⟩, baseline, _, ⟨hopen, rfl⟩, _, _,
    ⟨hcred, rfl⟩, _, _, ⟨hdek, rfl⟩, postBytes, _, ⟨ledger', hreseal, rfl⟩, post, _,
    ⟨hpost, rfl⟩, _, _, -, _, _, -, ⟨rfl, rfl⟩, -⟩ := h
  rw [applied_get?, dekOf_eq_some.mp hdek] at hcred
  exact ⟨bytes, pre, post, baseline, _, _, ledger', hbytes, hpre, hopen, hcred, hreseal, hpost,
    rfl⟩

/-- How a prepared bundle `post` relates to the bundle `pre` it replaces. The old bundle may be
unlocked by any methods that give the master key the preparation used. -/
structure PreparedFrom (env : RekeyEnv) (methods : MethodRegistry) (backendId : String)
    (oldDek newDek : FixedBytes 32) (pre post : ParsedBundle) : Prop where
  unlocks : ∃ after, unlockCreds env.toDepositEnv post methods = .ok after
  others : ∀ methods₀ methods' before after,
    recoverAny env.toUnlockEnv pre methods₀ = recoverAny env.toUnlockEnv pre methods →
    unlockCreds env.toDepositEnv pre methods₀ = .ok before →
    unlockCreds env.toDepositEnv post methods' = .ok after →
    ∀ b, b ≠ backendId → after.backends.get? b = before.backends.get? b
  rekeyed : ∀ methods' after, unlockCreds env.toDepositEnv post methods' = .ok after →
    after.backends.get? backendId = some (.dbKeystoreDek newDek)
  handedOver : ∀ methods₀ before,
    recoverAny env.toUnlockEnv pre methods₀ = recoverAny env.toUnlockEnv pre methods →
    unlockCreds env.toDepositEnv pre methods₀ = .ok before →
    before.backends.get? backendId = some (.dbKeystoreDek oldDek)
  noneEffective : ∀ methods' creds', openBundle env.toUnlockEnv post methods' = .ok creds' →
    ∀ r ∈ reviewDeposits env.toDepositEnv post creds', r.status ≠ .effective
  epoch : post.body.header.epoch = pre.body.header.epoch + 1
  bundleId : post.body.header.bundleId = pre.body.header.bundleId

theorem prepared_get? (hbox : OpensAsSealed env.toUnlockEnv) {baseline : CredBundle}
    {deposits : List DepositRecord} {ledger ledger' : Ledger} {postBytes : Bytes}
    (hreseal : (resealPayloadBumpEpochWithDeposits env.toUnlockEnv draw pre methods
      ((applyAuthorizedDeposits env.toDepositEnv pre baseline).1.set backendId
        (.dbKeystoreDek newDek)) deposits).exec ledger = (.ok postBytes, ledger'))
    (hpost : authenticatePreparedRekeyBundle env pre methods
      ((applyAuthorizedDeposits env.toDepositEnv pre baseline).1.set backendId
        (.dbKeystoreDek newDek)) postBytes backendId = .ok post)
    {methods' : MethodRegistry} {after : CredBundle}
    (hunlock : unlockCreds env.toDepositEnv post methods' = .ok after) (b : String) :
    after.backends.get? b = if b = backendId then some (.dbKeystoreDek newDek)
      else credInUse env.toDepositEnv pre baseline b := by
  obtain ⟨hdecode, -, -, _, hreopened, hnone⟩ := authenticatePreparedRekeyBundle_ok hpost
  obtain rfl := resealed_opens hbox hreseal hdecode hreopened
  obtain ⟨_, hopen', hget⟩ := unlockCreds_ok hunlock
  obtain rfl := resealed_opens hbox hreseal hdecode hopen'
  rw [hget, credInUse, effectiveDeposit_eq_none hnone, ← applied_get?]
  exact OrdMap.get?_insert _ _ _ _

theorem prepared_rekey_keeps_credentials (hbox : OpensAsSealed env.toUnlockEnv) {s s' : Durable Host}
    {prepared : PreparedBundleRekey}
    (h : (prepareDbKeystoreRekey env draw methods backendId newDek).exec s =
      (.ok (oldDek, prepared), s')) :
    ∃ bytes pre post, s.1.bundle = some bytes ∧ decode env.json bytes = .ok pre ∧
      decode env.json prepared.postBytes = .ok post ∧
      PreparedFrom env methods backendId oldDek newDek pre post := by
  obtain ⟨bytes, pre, post, baseline, _, _, _, hbytes, hpre, hopen, hold, hreseal,
    hpost, -⟩ := prepareDbKeystoreRekey_ok h
  obtain ⟨hdecode, hid, hepoch, _, hreopened, hnone⟩ := authenticatePreparedRekeyBundle_ok hpost
  obtain rfl := resealed_opens hbox hreseal hdecode hreopened
  -- What any unlock of the old bundle with that key gives.
  have hbefore : ∀ {methods₀ before},
      recoverAny env.toUnlockEnv pre methods₀ = recoverAny env.toUnlockEnv pre methods →
      unlockCreds env.toDepositEnv pre methods₀ = .ok before →
      ∀ b, before.backends.get? b = credInUse env.toDepositEnv pre baseline b := by
    intro methods₀ before hkey hunlock
    obtain ⟨creds₀, hopen₀, hget⟩ := unlockCreds_ok hunlock
    rw [openBundle, hkey] at hopen₀
    obtain rfl : baseline = creds₀ := Except.ok.inj (hopen.symm.trans hopen₀)
    exact hget
  refine ⟨bytes, pre, post, hbytes, hpre, hdecode, ?_, ?_, ?_, ?_, ?_, hepoch, hid⟩
  · exact ⟨_, by rw [unlockCreds, hreopened]; rfl⟩
  · intro methods₀ methods' before after hkey hunlock hunlock' b hb
    rw [prepared_get? hbox hreseal hpost hunlock' b, if_neg hb, hbefore hkey hunlock b]
  · intro methods' after hunlock
    rw [prepared_get? hbox hreseal hpost hunlock, if_pos rfl]
  · intro methods₀ before hkey hunlock
    rw [hbefore hkey hunlock, hold]
  · intro methods' creds' hopen'
    obtain rfl := resealed_opens hbox hreseal hdecode hopen'
    exact hnone

end Preparation

/-! ### A keystore, a database and a deposit for the vault -/

noncomputable def textRekey : RekeyEnv where
  toDepositEnv := textDeposits
  blake3 bytes :=
    match decode jsonTexts bytes with
    | .ok parsed => fill 32 (UInt8.ofNat parsed.body.header.epoch)
    | .error _ => fill 32 (bytes.headD 0)
  rekeyAt db _ _ old _ :=
    if db = [7] ∧ old = fill 32 3 then .ok ([8], 1) else .error (.backend "open source")
  verifyAt _ _ _ _ candidate new :=
    if candidate = [8] ∧ new = fill 32 4 then .ok 1 else .error (.backend "open copy")

def keystoreCreds (dek : FixedBytes 32) : CredBundle := ciBaseline.set "ks" (.dbKeystoreDek dek)

noncomputable def keystoreBody : BundleBody := depositedBody (keystoreCreds (fill 32 3))

/-- The deposit in effect has become part of the payload. -/
def rekeyedCreds : CredBundle :=
  ((keystoreCreds (fill 32 3)).set "vault" (.vaultToken "new" none)).set "ks" (.dbKeystoreDek (fill 32 4))

noncomputable def rekeyedBody : BundleBody := nextTextBody ciDraw ciHeader rekeyedCreds []

theorem keystoreBody_applied :
    applyAuthorizedDeposits textDeposits ⟨keystoreBody⟩ (keystoreCreds (fill 32 3)) =
      ((keystoreCreds (fill 32 3)).set "vault" (.vaultToken "new" none),
        [review (keystoreCreds (fill 32 3)) ciDeposit 0 .effective
          (some (credentialFingerprint textDeposits (.vaultToken "new" none)))]) := by
  rw [applyAuthorizedDeposits, keystoreBody, reviewAuthorized_deposited rfl]
  rfl

theorem keystoreBody_decode : decode textRekey.json (textFile keystoreBody) = .ok ⟨keystoreBody⟩ :=
  decode_textFile rfl rfl

theorem rekeyedBody_decode : decode textRekey.json (textFile rekeyedBody) = .ok ⟨rekeyedBody⟩ :=
  decode_textFile rfl rfl

theorem rekeyedBody_open :
    openBundle textRekey.toUnlockEnv ⟨rekeyedBody⟩ ciMethods = .ok rekeyedCreds :=
  openBundle_textBody

theorem authenticate_rekeyedBody :
    authenticatePreparedRekeyBundle textRekey ⟨keystoreBody⟩ ciMethods rekeyedCreds
      (textFile rekeyedBody) "ks" = .ok ⟨rekeyedBody⟩ := by
  simp only [authenticatePreparedRekeyBundle, rekeyedBody_decode, rekeyedBody_open, mapError_ok, ok_bind]
  rfl

noncomputable def keystorePrepared : PreparedBundleRekey :=
  ⟨⟨ciHeader.bundleId, "ks", 1, 2, textRekey.blake3 (textFile keystoreBody),
    textRekey.blake3 (textFile rekeyedBody)⟩, textFile rekeyedBody⟩

theorem exec_prepare_keystoreBody {host : Host} {writes : Nat}
    (hbundle : host.bundle = some (textFile keystoreBody)) (hepoch : host.epoch = some 1) :
    ∃ ledger', (prepareDbKeystoreRekey textRekey ciDraw ciMethods "ks" (fill 32 4)).exec
      (host, writes) =
        (.ok (fill 32 3, keystorePrepared), ({ host with ledger := ledger' }, writes)) := by
  obtain ⟨ledger', hreseal⟩ := exec_of_fst_ok (reseal_textBody ciDraw rekeyedCreds [] (by decide)
    host.ledger (show (ParsedBundle.mk keystoreBody).body = _ from rfl))
  refine ⟨ledger', ?_⟩
  refine exec_bind_step (exec_readBundle_ok.mpr ⟨hbundle, rfl⟩) ?_
  refine exec_bind_step (exec_opened_ok.mpr ⟨keystoreBody_decode, rfl⟩) ?_
  refine exec_bind_step (exec_opened_ok.mpr ⟨openBundle_textBody, rfl⟩) ?_
  rw [show applyAuthorizedDeposits textRekey.toDepositEnv _ _ = _ from keystoreBody_applied]
  refine exec_check_step (a := .dbKeystoreDek (fill 32 3)) rfl ?_
  refine exec_check_step (a := fill 32 3) rfl ?_
  refine exec_bind_step (exec_sealing_ok.mpr ⟨ledger', hreseal, rfl⟩) ?_
  refine exec_check_step authenticate_rekeyedBody ?_
  refine exec_bind_step (exec_readEpoch_ok.mpr ⟨hepoch, rfl⟩) ?_
  rfl

theorem keystore_prepared_from :
    ∃ s', (prepareDbKeystoreRekey textRekey ciDraw ciMethods "ks" (fill 32 4)).exec
        (⟨some (textFile keystoreBody), some 1, none, none, none, none, none, []⟩, 0) =
          (.ok (fill 32 3, keystorePrepared), s') ∧
      ∃ bytes pre post, some (textFile keystoreBody) = some bytes ∧
        decode textRekey.json bytes = .ok pre ∧
        decode textRekey.json keystorePrepared.postBytes = .ok post ∧
        PreparedFrom textRekey ciMethods "ks" (fill 32 3) (fill 32 4) pre post := by
  have hbox : OpensAsSealed textRekey.toUnlockEnv := textUnlock_opensAsSealed
  let host : Host := ⟨some (textFile keystoreBody), some 1, none, none, none, none, none, []⟩
  obtain ⟨ledger', hexec⟩ : ∃ ledger', (prepareDbKeystoreRekey textRekey ciDraw ciMethods "ks"
      (fill 32 4)).exec (host, 0) = (.ok (fill 32 3, keystorePrepared),
        ({ host with ledger := ledger' }, 0)) := exec_prepare_keystoreBody rfl rfl
  exact ⟨_, hexec, prepared_rekey_keeps_credentials hbox hexec⟩

end Basil
