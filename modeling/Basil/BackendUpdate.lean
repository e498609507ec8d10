import Basil.BundleCommands
import Basil.DepositPromotion

/-!
# Setting a backend's credential

`bundle set-backend` edits the sealed baseline and keeps the epoch and the deposit log, which the
next startup lays over that baseline.
-/

namespace Basil.Bundle

open Command Proc FixedBytes

variable {env : DepositEnv} {draw : ResealDraw} {methods : MethodRegistry} {backendId : String}
  {cred : BackendCred} {host host' : Durable Host}

theorem setBackend_ok
    (h : (BundleCli.setBackend env draw methods backendId cred).exec host = (.ok (), host')) :
    ∃ bytes parsed creds file parsed' kek, host.1.bundle = some bytes ∧
      decode env.json bytes = .ok parsed ∧ openBundle env.toUnlockEnv parsed methods = .ok creds ∧
      host'.1.bundle = some file ∧ decode env.json file = .ok parsed' ∧
      parsed'.body.header = parsed.body.header ∧ parsed'.body.deposits = parsed.body.deposits ∧
      env.aeadSeal kek draw.nonce parsed.headerAad (env.json.payloadToVec (creds.set backendId cred)) =
        some parsed'.body.payload.ciphertext := by
  simp only [BundleCli.setBackend, exec_bind_ok, exec_readBundle_ok, exec_opened_ok,
    exec_ensureThat_ok, exec_sealing_ok] at h
  obtain ⟨bytes, _, ⟨hbytes, rfl⟩, parsed, _, ⟨hparsed, rfl⟩, creds, _, ⟨hopen, rfl⟩, _, _, ⟨-, rfl⟩,
    file, _, ⟨_, hreseal, rfl⟩, parsed', _, ⟨hnew, rfl⟩, _, s₁, hwrite, hepoch⟩ := h
  have hbundle : host'.1.bundle = some file := by
    rw [Durable.write_ok hepoch, Durable.write_ok hwrite]
  obtain ⟨kek, ciphertext, -, hseal, rfl⟩ := resealPayload_ok hreseal
  refine ⟨bytes, parsed, creds, _, parsed', kek, hbytes, hparsed, hopen, hbundle, hnew, ?_⟩
  rw [decode_encoded_ok hnew]
  exact ⟨rfl, rfl, hseal⟩

theorem set_backend_in_use_iff (hbox : OpensAsSealed env.toUnlockEnv)
    (h : (BundleCli.setBackend env draw methods backendId cred).exec host = (.ok (), host')) :
    ∃ bytes parsed creds file parsed', host.1.bundle = some bytes ∧
      decode env.json bytes = .ok parsed ∧ openBundle env.toUnlockEnv parsed methods = .ok creds ∧
      host'.1.bundle = some file ∧ decode env.json file = .ok parsed' ∧
      ∀ methods' before after, unlockCreds env parsed methods = .ok before →
        unlockCreds env parsed' methods' = .ok after →
        (after.backends.get? backendId = some cred ↔
          ∀ c, effectiveDeposit env parsed creds backendId = some c → c.cred = cred) ∧
        ∀ b, b ≠ backendId → after.backends.get? b = before.backends.get? b := by
  obtain ⟨bytes, parsed, creds, file, parsed', _, hbytes, hparsed, hopen, hfile, hdecode, hheader, hlog,
    hseal⟩ := setBackend_ok h
  refine ⟨bytes, parsed, creds, file, parsed', hbytes, hparsed, hopen, hfile, hdecode, ?_⟩
  intro methods' before after hbefore hafter
  obtain ⟨_, hopen₀, hbefore⟩ := unlockCreds_ok hbefore
  obtain rfl := Except.ok.inj (hopen.symm.trans hopen₀)
  obtain ⟨_, hopen', hafter⟩ := unlockCreds_ok hafter
  obtain rfl := opened_payload hbox hseal rfl hopen'
  have hget (b : String) : (creds.set backendId cred).backends.get? b =
      if b = backendId then some cred else creds.backends.get? b := OrdMap.get?_insert _ _ _ _
  -- the log and the epoch are the old ones, so the deposits in effect are those of before
  have hdeposit (b : String) : effectiveDeposit env parsed' (creds.set backendId cred) b =
      effectiveDeposit env parsed creds b :=
    effectiveDeposit_congr hheader hlog
      (show (creds.set backendId cred).deposit = creds.deposit from rfl) b
  constructor
  · rw [hafter, credInUse, hdeposit, hget, if_pos rfl]
    cases effectiveDeposit env parsed creds backendId with
    | none | some c => simp
  · intro b hb
    rw [hafter, hbefore, credInUse, credInUse, hdeposit, hget, if_neg hb]

/-! ### A deposit for the vault -/

noncomputable def updatedBody (cred : BackendCred) : BundleBody :=
  textBody ciHeader [] (fill 12 5) (fill 12 7) (ciBaseline.set "vault" cred) [ciDeposit]

noncomputable def bundleHost (body : BundleBody) (ledger : Ledger) (writes : Nat) : Durable Host :=
  (⟨some (textFile body), some 1, none, none, none, none, none, ledger⟩, writes)

theorem setBackend_ciBody (cred : BackendCred) : ∃ ledger,
    (BundleCli.setBackend textDeposits ciDraw ciMethods "vault" cred).exec (bundleHost ciBody [] 2) =
      (.ok (), bundleHost (updatedBody cred) ledger 0) := by
  have hreseal : ((resealPayload textDeposits.toUnlockEnv ciDraw ⟨ciBody⟩ ciMethods
      (ciBaseline.set "vault" cred)).exec []).1 = .ok (textFile (updatedBody cred)) := by
    have hkek : recoverAny textDeposits.toUnlockEnv ⟨ciBody⟩ ciMethods = .ok ciKek :=
      recoverAny_textBody
    simp only [resealPayload, exec_bind, exec_check, hkek]
    rfl
  obtain ⟨ledger, hreseal⟩ := exec_of_fst_ok hreseal
  refine ⟨ledger, ?_⟩
  refine exec_bind_step (exec_readBundle_ok.mpr ⟨rfl, rfl⟩) ?_
  refine exec_bind_step (exec_opened_ok.mpr ⟨ciBody_decode, rfl⟩) ?_
  refine exec_bind_step (exec_opened_ok.mpr ⟨openBundle_textBody, rfl⟩) ?_
  refine exec_bind_step (a := ()) (exec_ensureThat_ok.mpr ⟨by decide, rfl⟩) ?_
  refine exec_bind_step (exec_sealing_ok.mpr ⟨ledger, hreseal, rfl⟩) ?_
  refine exec_bind_step (exec_opened_ok.mpr ⟨decode_textFile rfl rfl, rfl⟩) ?_
  rfl

/-- The deposit in effect for the vault carries the credential that is set. -/
theorem deposited_credential_set : ∃ ledger before after,
    (BundleCli.setBackend textDeposits ciDraw ciMethods "vault" (.vaultToken "new" none)).exec
      (bundleHost ciBody [] 2) = (.ok (), bundleHost (updatedBody (.vaultToken "new" none)) ledger 0) ∧
    unlockCreds textDeposits ⟨ciBody⟩ ciMethods = .ok before ∧
    unlockCreds textDeposits ⟨updatedBody (.vaultToken "new" none)⟩ ciMethods = .ok after ∧
    after.backends.get? "vault" = some (.vaultToken "new" none) ∧
    after.backends.get? "db" = before.backends.get? "db" := by
  obtain ⟨ledger, hset⟩ := setBackend_ciBody (.vaultToken "new" none)
  obtain ⟨_, _, _, _, _, hbytes, hparsed, hopen, hfile, hdecode, hiff⟩ :=
    set_backend_in_use_iff textUnlock_opensAsSealed hset
  obtain rfl := Option.some.inj hbytes
  obtain rfl := Except.ok.inj (ciBody_decode.symm.trans hparsed)
  obtain rfl := Except.ok.inj (openBundle_textBody.symm.trans hopen)
  obtain rfl := Option.some.inj hfile
  obtain rfl := Except.ok.inj ((decode_textFile rfl rfl).symm.trans hdecode)
  obtain ⟨hvault, hothers⟩ := hiff ciMethods _ _ unlockCreds_textBody unlockCreds_textBody
  refine ⟨ledger, _, _, hset, unlockCreds_textBody, unlockCreds_textBody, hvault.mpr ?_,
    hothers "db" (by decide)⟩
  rw [effectiveDeposit, ciBody_candidates]
  rintro c ⟨⟩
  rfl

def setCred : BackendCred := .vaultToken "set" none

theorem deposit_shadows_set_credential : ∃ ledger after,
    (BundleCli.setBackend textDeposits ciDraw ciMethods "vault" setCred).exec (bundleHost ciBody [] 2) =
      (.ok (), bundleHost (updatedBody setCred) ledger 0) ∧
    unlockCreds textDeposits ⟨updatedBody setCred⟩ ciMethods = .ok after ∧
    after.backends.get? "vault" = some (.vaultToken "new" none) := by
  obtain ⟨ledger, hset⟩ := setBackend_ciBody setCred
  refine ⟨ledger, _, hset, unlockCreds_textBody, ?_⟩
  have hdeposit : effectiveDeposit textDeposits ⟨updatedBody setCred⟩
      (ciBaseline.set "vault" setCred) "vault" =
        effectiveDeposit textDeposits ⟨ciBody⟩ ciBaseline "vault" := by
    apply effectiveDeposit_congr
    · rfl
    · rfl
    · rfl
  rw [applied_get?, credInUse]
  show ((effectiveDeposit _ ⟨updatedBody _⟩ _ _).map _).or _ = _
  rw [hdeposit, effectiveDeposit, ciBody_candidates]
  rfl

end Basil.Bundle
