import Basil.DepositOverlay

/-!
# Promotion and the credentials in use

What the broker uses after a promotion is the promoted payload with the records that were made for
the next epoch.
-/

namespace Basil.Bundle

open FixedBytes List

variable {env : DepositEnv} {parsed : ParsedBundle} {creds : CredBundle}

/-! ### The effective deposit of a backend -/

def effectiveDeposit (env : DepositEnv) (parsed : ParsedBundle) (creds : CredBundle) (b : String) :
    Option Candidate :=
  (byBackend (reviewAuthorized env parsed creds).2).get? b

def credInUse (env : DepositEnv) (parsed : ParsedBundle) (creds : CredBundle) (b : String) :
    Option BackendCred :=
  ((effectiveDeposit env parsed creds b).map Candidate.cred).or (creds.backends.get? b)

theorem reviewAuthorized_inOrder : InOrder (reviewAuthorized env parsed creds).2 := by
  rw [reviewAuthorized_candidates]
  exact candidates_inOrder _ 0

theorem applied_get? (b : String) :
    (applyAuthorizedDeposits env parsed creds).1.backends.get? b = credInUse env parsed creds b := by
  rw [applyAuthorizedDeposits_fst]
  exact overlay_get? reviewAuthorized_inOrder creds b

theorem effectiveDeposit_congr {parsed' : ParsedBundle} {creds' : CredBundle}
    (hheader : parsed'.body.header = parsed.body.header)
    (hlog : parsed'.body.deposits = parsed.body.deposits)
    (hmaterial : creds'.deposit = creds.deposit) (b : String) :
    effectiveDeposit env parsed' creds' b = effectiveDeposit env parsed creds b := by
  have hrecord : candidateOf env parsed' creds' = candidateOf env parsed creds := by
    funext entry
    rw [candidateOf, candidateOf, recordCred, recordCred, hmaterial, hheader]
  rw [effectiveDeposit, effectiveDeposit, reviewAuthorized_candidates, reviewAuthorized_candidates,
    hrecord, hlog]

theorem effectiveDeposit_stale
    (h : ∀ record ∈ parsed.body.deposits, record.epoch ≠ parsed.body.header.epoch) (b : String) :
    effectiveDeposit env parsed creds b = none := by
  have hnone : (reviewAuthorized env parsed creds).2 = [] := by
    rw [reviewAuthorized_candidates, filterMap_eq_nil_iff]
    rintro ⟨record, _⟩ hmem
    have hrecord : record ∈ parsed.body.deposits :=
      mem_of_mem_take (fst_mem_of_mem_zipIdx hmem)
    cases hcred : recordCred env parsed creds record with
    | none => simp [candidateOf, hcred]
    | some cred => exact absurd (recordCred_eq_some.mp hcred).current (h record hrecord)
  rw [effectiveDeposit, hnone]
  rfl

/-! ### The promoted payload -/

def promotedOf (env : DepositEnv) (parsed : ParsedBundle) (creds : CredBundle)
    (backendFilter contributorFilter : List String) : List Candidate :=
  (selectEffective (reviewAuthorized env parsed creds).2).filter
    (selected backendFilter contributorFilter)

variable {backendFilter contributorFilter : List String}

theorem promoted_get? (b : String) :
    (promotedPayload creds
        (promotedOf env parsed creds backendFilter contributorFilter)).backends.get? b =
      (((effectiveDeposit env parsed creds b).filter
        (selected backendFilter contributorFilter)).map Candidate.cred).or
          (creds.backends.get? b) := by
  have hdistinct := (byBackend (reviewAuthorized env parsed creds).2).nodup_keys
  have hentries : promotedOf env parsed creds backendFilter contributorFilter =
      ((byBackend (reviewAuthorized env parsed creds).2).entries.filter fun e =>
        selected backendFilter contributorFilter e.2).map Prod.snd := by
    rw [promotedOf, selectEffective, filter_map]
    rfl
  rw [hentries, promotedPayload_get?, OrdMap.lookup_filter _ _ hdistinct]
  · rfl
  · rintro ⟨_, _⟩ he
    have hentry := OrdMap.get?_eq_some_iff.mpr (mem_of_mem_filter he)
    exact (byBackend_greatest reviewAuthorized_inOrder hentry).1.2
  · exact hdistinct.sublist (filter_sublist.map _)

/-! ### The promoted bundle -/

def nextBundle (parsed : ParsedBundle) (promoted : List Candidate) : ParsedBundle :=
  ⟨{ parsed.body with
    header := { parsed.body.header with epoch := parsed.body.header.epoch + 1 }
    deposits := keptDeposits parsed.body.deposits promoted }⟩

/-- Whatever key and data open a ciphertext, it holds what was sealed. -/
def OpensAsSealed (env : UnlockEnv) : Prop :=
  ∀ ⦃key nonce aad plaintext ciphertext⦄, env.aeadSeal key nonce aad plaintext = some ciphertext →
    ∀ ⦃key' nonce' aad' opened⦄, env.aeadOpen key' nonce' aad' ciphertext = some opened →
      opened = plaintext

variable {draw : ResealDraw} {methods : MethodRegistry} {ledger ledger' : Ledger} {file : Bytes}
  {reviews : List DepositReview}

theorem promoteDeposits_ok (hopen : openBundle env.toUnlockEnv parsed methods = .ok creds)
    (h : (promoteDeposits env draw parsed methods backendFilter contributorFilter).exec ledger =
      (.ok (file, reviews), ledger')) :
    let promoted := promotedOf env parsed creds backendFilter contributorFilter
    (resealPayloadBumpEpochWithDeposits env.toUnlockEnv draw parsed methods
      (promotedPayload creds promoted) (keptDeposits parsed.body.deposits promoted)).exec ledger =
        (.ok file, ledger') := by
  simp only [promoteDeposits, Proc.exec_bind_ok, Proc.exec_check_ok, Proc.exec_pure, Prod.mk.injEq,
    Except.ok.injEq] at h
  obtain ⟨_, _, ⟨hopen', rfl⟩, _, _, hreseal, ⟨rfl, -⟩, rfl⟩ := h
  obtain rfl : creds = _ := Except.ok.inj (hopen.symm.trans hopen')
  exact hreseal

theorem opened_payload (hbox : OpensAsSealed env.toUnlockEnv) {key : FixedBytes 32}
    {nonce : FixedBytes 12} {aad ciphertext : Bytes} {payload : CredBundle}
    (hseal : env.aeadSeal key nonce aad (env.json.payloadToVec payload) = some ciphertext)
    (hsealed : parsed.body.payload.ciphertext = ciphertext)
    (hopen : openBundle env.toUnlockEnv parsed methods = .ok creds) : creds = payload := by
  simp only [openBundle, eq_ok, decryptPayload, hsealed] at hopen
  obtain ⟨_, -, _, -, _, hplaintext, hread⟩ := hopen
  rw [hbox hseal hplaintext, env.json.payload_read] at hread
  exact (Except.ok.inj hread).symm

theorem promoted_file (hbox : OpensAsSealed env.toUnlockEnv) {bytes : Bytes}
    (hparsed : decode env.json bytes = .ok parsed)
    (hopen : openBundle env.toUnlockEnv parsed methods = .ok creds)
    (h : (promoteDeposits env draw parsed methods backendFilter contributorFilter).exec ledger =
      (.ok (file, reviews), ledger')) :
    let promoted := promotedOf env parsed creds backendFilter contributorFilter
    ∃ parsed', decode env.json file = .ok parsed' ∧
      parsed'.body.header = (nextBundle parsed promoted).body.header ∧
      parsed'.body.deposits = (nextBundle parsed promoted).body.deposits ∧
      ∀ methods' creds', openBundle env.toUnlockEnv parsed' methods' = .ok creds' →
        creds' = promotedPayload creds promoted := by
  intro promoted
  obtain ⟨_, _, _, -, hseal, rfl⟩ :=
    resealPayloadBumpEpochWithDeposits_ok (promoteDeposits_ok hopen h)
  obtain ⟨-, hversion, hsuite, -⟩ := checkBody_ok.mp (decode_ok hparsed)
  rw [decode_encoded]
  refine ⟨_, checkBody_ok.mpr ⟨env.json.header_read _, hversion, hsuite, rfl⟩, rfl, rfl, ?_⟩
  exact fun methods' creds' => opened_payload hbox hseal rfl

theorem unlockCreds_ok {after : CredBundle} (h : unlockCreds env parsed methods = .ok after) :
    ∃ creds, openBundle env.toUnlockEnv parsed methods = .ok creds ∧
      ∀ b, after.backends.get? b = credInUse env parsed creds b := by
  simp only [unlockCreds, eq_ok] at h
  obtain ⟨creds, hopen, rfl⟩ := h
  exact ⟨creds, hopen, applied_get?⟩

def PromotionKeeps (env : DepositEnv) (parsed : ParsedBundle) (creds : CredBundle)
    (backendFilter contributorFilter : List String) : Prop :=
  ∀ b,
    match effectiveDeposit env (nextBundle parsed
      (promotedOf env parsed creds backendFilter contributorFilter)) creds b with
    | some next => credInUse env parsed creds b = some next.cred
    | none => ∀ c, effectiveDeposit env parsed creds b = some c →
        selected backendFilter contributorFilter c = true ∨ creds.backends.get? b = some c.cred

theorem promotion_keeps_credentials_iff (hbox : OpensAsSealed env.toUnlockEnv) {bytes : Bytes}
    (hparsed : decode env.json bytes = .ok parsed)
    (hopen : openBundle env.toUnlockEnv parsed methods = .ok creds)
    (h : (promoteDeposits env draw parsed methods backendFilter contributorFilter).exec ledger =
      (.ok (file, reviews), ledger')) :
    ∃ parsed', decode env.json file = .ok parsed' ∧
      ∀ methods' before after, unlockCreds env parsed methods = .ok before →
        unlockCreds env parsed' methods' = .ok after →
        ((∀ b, after.backends.get? b = before.backends.get? b) ↔
          PromotionKeeps env parsed creds backendFilter contributorFilter) := by
  obtain ⟨parsed', hdecode, hheader, hlog, hpayload⟩ := promoted_file hbox hparsed hopen h
  refine ⟨parsed', hdecode, ?_⟩
  intro methods' before after hbefore hafter
  obtain ⟨creds₀, hopen₀, hbefore⟩ := unlockCreds_ok hbefore
  obtain rfl : creds = creds₀ := Except.ok.inj (hopen.symm.trans hopen₀)
  obtain ⟨creds', hopen', hafter⟩ := unlockCreds_ok hafter
  obtain rfl := hpayload methods' creds' hopen'
  refine forall_congr' fun b => ?_
  rw [hafter, hbefore, credInUse, effectiveDeposit_congr hheader hlog (promotedPayload_deposit _ _),
    promoted_get?]
  cases effectiveDeposit env (nextBundle parsed
      (promotedOf env parsed creds backendFilter contributorFilter)) creds b with
  | some next => exact eq_comm
  | none =>
    rw [credInUse]
    cases effectiveDeposit env parsed creds b with
    | none => simp
    | some c =>
      cases hselected : selected backendFilter contributorFilter c with
      | true | false => simp [Option.filter, hselected]

/-! ### A deposit left behind -/

theorem textUnlock_opensAsSealed : OpensAsSealed textUnlock := by
  intro key nonce aad plaintext ciphertext hseal key' nonce' aad' opened hopen
  obtain rfl : textOf (key, nonce, aad, plaintext) = ciphertext := Option.some.inj hseal
  have htext := textOf_injective (boxOpen_eq_some.mp hopen)
  simp only [Prod.mk.injEq] at htext
  exact htext.2.2.2.symm

variable {header : Header} {salt : Bytes} {wrapNonce nonce : FixedBytes 12} {payload : CredBundle}
  {deposits : List DepositRecord}

noncomputable def nextTextBody (draw : ResealDraw) (header : Header) (payload : CredBundle)
    (deposits : List DepositRecord) : BundleBody :=
  textBody { header with epoch := header.epoch + 1 } (draw.wraps 0).salt.bytes (draw.wraps 0).nonce
    draw.nonce payload deposits

theorem reseal_textBody (draw : ResealDraw) (newPayload : CredBundle) (log : List DepositRecord)
    (hepoch : header.epoch + 1 ≤ u64Max) (ledger : Ledger) {parsed : ParsedBundle}
    (hparsed : parsed.body = textBody header salt wrapNonce nonce payload deposits) :
    ((resealPayloadBumpEpochWithDeposits textUnlock draw parsed ciMethods newPayload log).exec ledger).1 =
      .ok (textFile (nextTextBody draw header newPayload log)) := by
  obtain ⟨_⟩ := parsed
  obtain rfl : _ = textBody header salt wrapNonce nonce payload deposits := hparsed
  have hmatched : matchedMethod textUnlock ciMethods (textOf header) ciKek
      (textSlot (textOf header) salt wrapNonce) = some (.passphrase [1] ⟨8, 1, 1⟩) := by
    show find? _ [UnlockMethod.passphrase [1] ⟨8, 1, 1⟩] = _
    simp [recoverKek_textSlot, Except.toOption, UnlockMethod.available]
  have hslots : (textBody header salt wrapNonce nonce payload deposits).slots =
      [textSlot (textOf header) salt wrapNonce] := rfl
  have haad : (ParsedBundle.mk (textBody header salt wrapNonce nonce payload deposits)).headerAad =
      textOf header := rfl
  have hheader : (textBody header salt wrapNonce nonce payload deposits).header = header := rfl
  simp only [resealPayloadBumpEpochWithDeposits, Proc.exec_bind, Proc.exec_check, hheader,
    ensure_pos hepoch, recoverAny_textBody, encryptPayload, exec_record, hslots, haad, rewrapSlots,
    hmatched, orErr]
  rfl

theorem unlockCreds_textBody :
    unlockCreds textDeposits ⟨textBody header salt wrapNonce nonce payload deposits⟩ ciMethods =
      .ok (applyAuthorizedDeposits textDeposits
        ⟨textBody header salt wrapNonce nonce payload deposits⟩ payload).1 := by
  show (openBundle textUnlock _ ciMethods >>= _) = _
  rw [openBundle_textBody]
  rfl

theorem promote_textBody (draw : ResealDraw) (backendFilter contributorFilter : List String)
    (hepoch : header.epoch + 1 ≤ u64Max) {parsed : ParsedBundle}
    (hparsed : parsed.body = textBody header salt wrapNonce nonce payload deposits) :
    let promoted := promotedOf textDeposits parsed payload backendFilter contributorFilter
    ∃ ledger',
      (promoteDeposits textDeposits draw parsed ciMethods backendFilter contributorFilter).exec [] =
        (.ok (textFile (nextTextBody draw header (promotedPayload payload promoted)
          (keptDeposits deposits promoted)), reviewDeposits textDeposits parsed payload), ledger') := by
  intro promoted
  have hlog : parsed.body.deposits = deposits := by rw [hparsed]; rfl
  have hopen : openBundle textDeposits.toUnlockEnv parsed ciMethods = .ok payload := by
    obtain ⟨_⟩ := parsed
    obtain rfl : _ = textBody header salt wrapNonce nonce payload deposits := hparsed
    exact openBundle_textBody
  obtain ⟨ledger', hreseal⟩ := Proc.exec_of_fst_ok (reseal_textBody draw
    (promotedPayload payload promoted) (keptDeposits deposits promoted) hepoch [] hparsed)
  refine ⟨ledger', ?_⟩
  simp only [promoteDeposits, hopen, hlog]
  exact Proc.exec_bind_of_ok hreseal

/-! The deposit of `ci` for `vault`, with and without a filter for another backend. -/

noncomputable def depositedBody (creds : CredBundle) : BundleBody :=
  textBody ciHeader [] (fill 12 5) (fill 12 6) creds [ciDeposit]

noncomputable abbrev ciBody : BundleBody := depositedBody ciBaseline

def ciCandidate : Candidate := ⟨0, "vault", "ci", 1, .vaultToken "new" none⟩

theorem reviewAuthorized_deposited {creds : CredBundle} (hmaterial : creds.deposit = ciMaterial) :
    reviewAuthorized textDeposits ⟨depositedBody creds⟩ creds =
      ([review creds ciDeposit 0 .superseded
        (some (credentialFingerprint textDeposits (.vaultToken "new" none)))], [ciCandidate]) := by
  have hauthorized : Authorized textDeposits ciHeader creds.deposit ciDeposit (.vaultToken "new" none) :=
    hmaterial ▸ ciDeposit_authorized
  have heligible : Eligible textDeposits ⟨depositedBody creds⟩ creds ciDeposit (.vaultToken "new" none) :=
    (eligible_iff_authorized textDeposits_ideal).mpr hauthorized
  have hingest : creds.deposit.ingestPrivateKey = some (fill 32 9) := hmaterial ▸ rfl
  have hcred : reviewCred textDeposits ciHeader creds.deposit (fill 32 9) ciDeposit =
      .ok (.vaultToken "new" none) := (reviewCred_ok_iff hingest).mpr heligible
  have hone : reviewOne textDeposits ciHeader creds (fill 32 9) ciDeposit 0 =
      .ok (ciCandidate, review creds ciDeposit 0 .superseded
        (some (credentialFingerprint textDeposits (.vaultToken "new" none)))) := by
    unfold reviewOne
    rw [hcred]
    rfl
  simp only [reviewAuthorized, hingest]
  show reviewLog textDeposits ciHeader creds (fill 32 9) 0 [ciDeposit] = _
  simp [reviewLog, hone, maxDeposits]

theorem ciBody_candidates : (reviewAuthorized textDeposits ⟨ciBody⟩ ciBaseline).2 = [ciCandidate] := by
  rw [reviewAuthorized_deposited rfl]

theorem ciBody_next (promoted : List Candidate) (b : String) :
    effectiveDeposit textDeposits (nextBundle ⟨ciBody⟩ promoted) ciBaseline b = none := by
  refine effectiveDeposit_stale ?_ b
  intro record hrecord
  obtain ⟨_, hentry, rfl⟩ := mem_map.mp hrecord
  have hmem : _ ∈ [ciDeposit] := fst_mem_of_mem_zipIdx (mem_of_mem_filter hentry)
  rw [mem_singleton.mp hmem]
  show 1 ≠ 1 + 1
  decide

theorem ciBody_reviews :
    (reviewDeposits textDeposits ⟨ciBody⟩ ciBaseline).map DepositReview.status = [.effective] := by
  rw [reviewDeposits, reviewAuthorized_deposited rfl]
  rfl

def ciDraw : ResealDraw where
  nonce := fill 12 7
  wraps _ := ⟨fill 16 0, fill 12 8, fill 32 0, [], []⟩
  now := 0

theorem ciBody_decode : decode jsonTexts (textFile ciBody) = .ok ⟨ciBody⟩ := decode_textFile rfl rfl

theorem ciNext_decode (creds : CredBundle) (deposits : List DepositRecord) :
    decode jsonTexts (textFile (nextTextBody ciDraw ciHeader creds deposits)) =
      .ok ⟨nextTextBody ciDraw ciHeader creds deposits⟩ :=
  decode_textFile rfl rfl

theorem unselected_deposit_left_behind :
    ∃ file reviews ledger' parsed' before after,
      decode jsonTexts (textFile ciBody) = .ok ⟨ciBody⟩ ∧
      (promoteDeposits textDeposits ciDraw ⟨ciBody⟩ ciMethods ["db"] []).exec [] =
        (.ok (file, reviews), ledger') ∧ reviews.map DepositReview.status = [.effective] ∧
      decode jsonTexts file = .ok parsed' ∧ parsed'.body.deposits = [ciDeposit] ∧
      unlockCreds textDeposits ⟨ciBody⟩ ciMethods = .ok before ∧
      unlockCreds textDeposits parsed' ciMethods = .ok after ∧
      before.backends.get? "vault" = some (.vaultToken "new" none) ∧
      after.backends.get? "vault" = none := by
  have hpromoted : promotedOf textDeposits ⟨ciBody⟩ ciBaseline ["db"] [] = [] := by
    rw [promotedOf, ciBody_candidates]
    rfl
  obtain ⟨ledger', hpromote⟩ := promote_textBody ciDraw ["db"] [] (by decide)
    (show (ParsedBundle.mk ciBody).body = ciBody from rfl)
  rw [hpromoted] at hpromote
  refine ⟨_, _, ledger', _, _, _, ciBody_decode, hpromote, ciBody_reviews, ciNext_decode _ _, rfl,
    unlockCreds_textBody, unlockCreds_textBody, ?_, ?_⟩
  · rw [applied_get?, credInUse]
    show ((effectiveDeposit textDeposits ⟨ciBody⟩ ciBaseline "vault").map Candidate.cred).or _ = _
    rw [effectiveDeposit, ciBody_candidates]
    rfl
  · rw [applied_get?, credInUse]
    rfl

theorem promote_all_keeps_credentials :
    ∃ file reviews ledger' parsed' before after,
      (promoteDeposits textDeposits ciDraw ⟨ciBody⟩ ciMethods [] []).exec [] =
        (.ok (file, reviews), ledger') ∧
      decode jsonTexts file = .ok parsed' ∧
      unlockCreds textDeposits ⟨ciBody⟩ ciMethods = .ok before ∧
      unlockCreds textDeposits parsed' ciMethods = .ok after ∧
      ∀ b, after.backends.get? b = before.backends.get? b := by
  obtain ⟨ledger', hpromote⟩ := promote_textBody ciDraw [] [] (by decide)
    (show (ParsedBundle.mk ciBody).body = ciBody from rfl)
  have hkeeps : PromotionKeeps textDeposits ⟨ciBody⟩ ciBaseline [] [] := by
    intro b
    rw [ciBody_next]
    intro c _
    exact .inl rfl
  have hbox : OpensAsSealed textDeposits.toUnlockEnv := textUnlock_opensAsSealed
  have hdecode : decode textDeposits.json (textFile ciBody) = .ok ⟨ciBody⟩ := ciBody_decode
  have hopen : openBundle textDeposits.toUnlockEnv ⟨ciBody⟩ ciMethods = .ok ciBaseline :=
    openBundle_textBody
  obtain ⟨parsed', hparsed', h⟩ := promotion_keeps_credentials_iff hbox hdecode hopen hpromote
  generalize promotedOf textDeposits ⟨ciBody⟩ ciBaseline [] [] = promoted at hpromote hparsed'
  obtain rfl : parsed' = _ := Except.ok.inj (hparsed'.symm.trans (ciNext_decode _ _))
  have hbefore : unlockCreds textDeposits ⟨ciBody⟩ ciMethods = .ok _ := unlockCreds_textBody
  have hafter : unlockCreds textDeposits ⟨nextTextBody ciDraw ciHeader (promotedPayload ciBaseline promoted)
      (keptDeposits [ciDeposit] promoted)⟩ ciMethods = .ok _ := unlockCreds_textBody
  exact ⟨_, _, ledger', _, _, _, hpromote, hparsed', hbefore, hafter,
    (h ciMethods _ _ hbefore hafter).mpr hkeeps⟩

end Basil.Bundle
