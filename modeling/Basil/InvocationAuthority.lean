import Basil.ChallengeSpec
import Basil.Invocation

/-!
# What a signed invocation has passed

Before the answer only preflight effects are logged, the sealed answer adds its own two, and the
signature of the requested operation stands between them.
-/

namespace Basil.Invocation

open Cose CiFederation Challenge RunQuota Evidence Proc List

variable {σ : Type} {E : Event → Prop} {w : World σ} {config : InvocationConfig}
  {g : ServingGeneration w.federation} {peer : PeerInfo} {message : Bytes} {s s' : Run σ}

/-! ### What a step logs -/

def Extends (E : Event → Prop) (s s' : Run σ) : Prop :=
  ∃ added, s'.log = s.log ++ added ∧ ∀ event ∈ added, E event

theorem Extends.of_log_eq (h : s'.log = s.log) : Extends E s s' := ⟨[], by simp [h], by simp⟩

instance : Std.Refl (Extends (σ := σ) E) := ⟨fun _ => .of_log_eq rfl⟩

instance : IsTrans (Run σ) (Extends E) where
  trans := by
    rintro s s₁ s₂ ⟨xs, hxs, hE⟩ ⟨ys, hys, hE'⟩
    refine ⟨xs ++ ys, by rw [hys, hxs, List.append_assoc], ?_⟩
    intro event hevent
    exact (List.mem_append.mp hevent).elim (hE event) (hE' event)

theorem Extends.mono {E' : Event → Prop} (h : Extends E s s') (hE : ∀ event, E event → E' event) :
    Extends E' s s' := by
  obtain ⟨added, hlog, hadded⟩ := h
  exact ⟨added, hlog, fun event hevent => hE event (hadded event hevent)⟩

variable {event : Event} {recipient : ResponseRecipient} {e : Envelope}
  {evidence : VerifiedProviderEvidence} {actor : AuthenticatedActor} {r : PreparedRequest}
  {headers : ProtectedHeaders}

theorem Extends.mem (h : Extends E s s') (hevent : event ∈ s'.log) : event ∈ s.log ∨ E event := by
  obtain ⟨_, hlog, hadded⟩ := h
  rw [hlog, mem_append] at hevent
  exact hevent.imp_right (hadded event)

theorem keeps_yield (point : Await) : Keeps (Extends E) (yield w point) :=
  fun _ => .of_log_eq rfl

theorem keeps_onStore {ε α : Type} (p : Proc σ ε α) : Keeps (Extends E) (onStore p) :=
  fun _ => .of_log_eq rfl

theorem keeps_emit (h : E event) : Keeps (Extends E) (emit event : Proc (Run σ) Status Unit) :=
  fun _ => ⟨[event], rfl, by simpa using h⟩

theorem signWith_cases (site : SignSite) (keyId : String) (payload : Bytes) (s : Run σ) :
    (∃ error s', (signWith w site keyId payload).exec s = (.error error, s') ∧ s'.log = s.log) ∨
    ∃ signature s', (signWith w site keyId payload).exec s = (.ok signature, s') ∧
      s'.log = s.log ++ [.backendSigned site keyId payload signature] := by
  unfold signWith
  rw [exec_ofFun]
  rcases (w.manager.sign keyId payload).exec s.shared.store with ⟨error | signature, store⟩
  · exact .inl ⟨error, _, rfl, rfl⟩
  · exact .inr ⟨signature, _, rfl, rfl⟩

theorem keeps_signWith {site : SignSite} {keyId : String} {payload : Bytes}
    (h : ∀ signature, E (.backendSigned site keyId payload signature)) :
    Keeps (Extends E) (signWith w site keyId payload) := by
  intro s
  obtain ⟨_, s', hrun, hlog⟩ | ⟨signature, s', hrun, hlog⟩ :=
    signWith_cases (w := w) site keyId payload s
  · rw [hrun]
    exact .of_log_eq hlog
  · rw [hrun]
    exact ⟨_, hlog, by simpa using h signature⟩

/-! ### The sealed answer -/

def ResponseEvent (config : InvocationConfig) (recipient : ResponseRecipient) : Event → Prop
  | .responseSealed sealedTo key =>
      sealedTo = recipient ∧ ∀ keyId key', recipient = .ephemeral keyId key' → key = key'
  | .backendSigned .response keyId _ _ =>
      config.brokerIdentity.map BrokerIdentity.responseSigningKeyId = some keyId
  | _ => False

theorem recipientPublic_log (recipient : ResponseRecipient) :
    Keeps (Extends E) (recipientPublic w recipient) := by
  cases recipient with
  | catalog => exact keeps_mapErr _ (keeps_onStore _)
  | ephemeral keyId key => exact keeps_pure key

theorem protectResponse_log (e : Envelope) (body : SignInvocationResponse) :
    Keeps (Extends (ResponseEvent config e.recipient)) (protectResponse w config e body) := by
  refine keeps_check_bind fun identity hidentity => ?_
  rw [orErr_eq_ok] at hidentity
  refine keeps_bind (keeps_yield _) fun _ => ?_
  refine keeps_bind_of_ok (recipientPublic_log _) fun key _ _ hkey => ?_
  refine keeps_check_bind fun signer hsigner => ?_
  rw [orErr_eq_ok] at hsigner
  refine keeps_check_bind fun issuer _ => keeps_check_bind fun recipient _ =>
    keeps_check_bind fun parts _ => ?_
  have hephemeral : ∀ keyId key', e.recipient = .ephemeral keyId key' → key = key' := by
    intro keyId key' hrecipient
    simp only [hrecipient, recipientPublic, exec_ok] at hkey
    exact hkey.1.symm
  refine keeps_bind (keeps_emit ⟨rfl, hephemeral⟩) fun _ => ?_
  refine keeps_check_bind fun signingKeyId hname => ?_
  rw [orErr_eq_ok, KeyId.asCatalogName_fromText hsigner] at hname
  have hown : config.brokerIdentity.map BrokerIdentity.responseSigningKeyId = some signingKeyId := by
    rw [hidentity]
    exact hname
  refine keeps_bind (keeps_mapErr _ (keeps_signWith fun _ => hown)) fun signature => ?_
  exact keeps_check_bind fun _ _ => keeps_pure _

theorem respondStatus_log (e : Envelope) (status : InvocationStatus) :
    Keeps (Extends (ResponseEvent config e.recipient)) (respondStatus w config g e status) :=
  protectResponse_log e _

/-! ### Execution -/

/-- The actor may sign with the target of the operation. -/
structure OperationSigned (w : World σ) (g : ServingGeneration w.federation)
    (p : PreparedInvocation) (request : SignInvocationRequest) : Prop where
  body : w.decodeSignRequest p.body = some request
  contentType : p.envelope.sealed.contentType = contentTypeSignRequest
  allowed : g.pdp.allows p.actor .sign (signTarget p.envelope request) = true

theorem signOperation_log (p : PreparedInvocation) (request : SignInvocationRequest) (s : Run σ) :
    Extends (ResponseEvent config p.envelope.recipient) s
        ((signOperation w config g p request).exec s).2 ∨
      ∃ signature s₁, s₁.log = s.log ++ [.backendSigned .operation (signTarget p.envelope request)
          request.message signature] ∧
        Extends (ResponseEvent config p.envelope.recipient) s₁
          ((signOperation w config g p request).exec s).2 := by
  unfold signOperation
  have hyield : (yield w .operation).exec s = (.ok (), { s with shared := w.others .operation s.shared }) :=
    rfl
  rw [exec_bind_of_ok hyield]
  obtain ⟨_, s₁, hrun, hlog⟩ | ⟨signature, s₁, hrun, hlog⟩ :=
    signWith_cases (w := w) .operation (signTarget p.envelope request) request.message
      { s with shared := w.others .operation s.shared }
  · left
    rw [exec_bind_of_ok (by rw [exec_attempt, hrun])]
    exact trans_of (Extends _) (.of_log_eq hlog) (respondStatus_log p.envelope _ s₁)
  · right
    rw [exec_bind_of_ok (by rw [exec_attempt, hrun])]
    exact ⟨signature, s₁, hlog, protectResponse_log p.envelope _ s₁⟩

theorem executeInvocation_log (p : PreparedInvocation) (s : Run σ) :
    Extends (ResponseEvent config p.envelope.recipient) s
        ((executeInvocation w config g p).exec s).2 ∨
      ∃ request signature s₁, OperationSigned w g p request ∧
        ensureSupportedSigningAlgorithm request.algorithm invokeOp = .ok () ∧
        s₁.log = s.log ++ [.backendSigned .operation (signTarget p.envelope request)
          request.message signature] ∧
        Extends (ResponseEvent config p.envelope.recipient) s₁
          ((executeInvocation w config g p).exec s).2 := by
  unfold executeInvocation executeSignInvocation
  split
  · next hcontent =>
    split
    · exact .inl (respondStatus_log p.envelope _ s)
    · next request hbody =>
      split_ifs with hunsupported hdenied
      · exact .inl (respondStatus_log p.envelope _ s)
      · exact .inl (respondStatus_log p.envelope _ s)
      · refine (signOperation_log p request s).imp_right ?_
        rintro ⟨signature, s₁, hlog, hrest⟩
        have hsupported : ensureSupportedSigningAlgorithm request.algorithm invokeOp = .ok () := by
          cases h : ensureSupportedSigningAlgorithm request.algorithm invokeOp with
          | error => exact absurd (by rw [h]; rfl) hunsupported
          | ok => rfl
        exact ⟨request, signature, s₁, ⟨hbody, hcontent, by simpa using hdenied⟩, hsupported, hlog, hrest⟩
  · exact .inl (respondStatus_log p.envelope _ s)

/-! ### The envelope -/

structure VerifiedUnder (w : World σ) (g : ServingGeneration w.federation) (token : String)
    (key : ProofKey) (rule : ProviderRule) (evidence : VerifiedProviderEvidence) : Prop where
  served : ∃ catalog, g.federation = some catalog ∧ rule ∈ catalog.rules
  verified : ∃ keys, verifyRule w.federation keys token key w.correlation (w.clock .evidence) rule =
    .ok evidence.claims
  evidence_eq : evidence = evidenceOf rule evidence.claims

inductive ProofOutcome (w : World σ) (g : ServingGeneration w.federation) :
    Option String → Option ProofKey → Option VerifiedProviderEvidence → Prop where
  | absent (key : Option ProofKey) : ProofOutcome w g none key none
  | verified {token : String} {key : ProofKey} {rule : ProviderRule}
      {evidence : VerifiedProviderEvidence} (h : VerifiedUnder w g token key rule evidence) :
      ProofOutcome w g (some token) (some key) (some evidence)

theorem verifyEvidence_cases (token : String) (key : ProofKey) (s : Run σ) :
    (∃ s', (verifyEvidence w g token key).exec s = (.error unauthorizedInvocation, s') ∧
      s'.log = s.log) ∨
    ∃ rule evidence s', (verifyEvidence w g token key).exec s = (.ok evidence, s') ∧
      VerifiedUnder w g token key rule evidence ∧ s'.log = s.log ++ [.evidenceVerified evidence] := by
  unfold verifyEvidence
  rw [exec_ofFun]
  rcases hverify : verifyProviderEvidence w.federation g.access token key w.correlation
    (w.clock .evidence) g.federation s.shared.jwksCaches with ⟨_ | evidence, caches⟩
  · exact .inl ⟨_, rfl, rfl⟩
  · obtain ⟨catalog, hcatalog, rule, hmem, keys, _, hclaims, rfl⟩ :=
      verifyProviderEvidence_eq_some (congrArg Prod.fst hverify)
    exact .inr ⟨rule, _, _, rfl, ⟨⟨catalog, hcatalog, hmem⟩, ⟨keys, hclaims⟩, rfl⟩, rfl⟩

theorem providerEvidence_ok {token : Option String} {key : Option ProofKey}
    {evidence : Option VerifiedProviderEvidence}
    (h : (providerEvidence w g token key).exec s = (.ok evidence, s')) :
    ProofOutcome w g token key evidence ∧
      s'.log = s.log ++ (evidence.map Event.evidenceVerified).toList := by
  unfold providerEvidence at h
  cases token with
  | none =>
    obtain ⟨rfl, rfl⟩ := h
    exact ⟨.absent key, by simp⟩
  | some token =>
    simp only [exec_ok, orErr_eq_ok] at h
    obtain ⟨key, _, ⟨rfl, rfl⟩, _, s₁, hyield, evidence, _, hverify, rfl, rfl⟩ := h
    have hs₁ : s₁.log = s.log := by
      cases hyield
      rfl
    obtain ⟨_, hrun, -⟩ | ⟨_, _, _, hrun, hrule, hlog⟩ :=
      verifyEvidence_cases (g := g) token key s₁
    · rw [hrun] at hverify
      cases hverify
    · rw [hrun] at hverify
      cases hverify
      rw [← hs₁]
      exact ⟨.verified hrule, hlog⟩

def AdmissionEvent : Event → Prop
  | .challengeConsumed _ _ _ | .quotaCharged _ _ _ => True
  | _ => False

def PreflightEvent : Event → Prop
  | .evidenceVerified _ => True
  | event => AdmissionEvent event

theorem AdmissionEvent.preflight (event : Event) (h : AdmissionEvent event) :
    PreflightEvent event := by
  cases event <;> trivial

theorem providerEvidence_log (token : Option String) (key : Option ProofKey) :
    Keeps (Extends PreflightEvent) (providerEvidence w g token key) := by
  cases token with
  | none => exact keeps_pure _
  | some token =>
    refine keeps_check_bind fun key _ => keeps_bind (keeps_yield _) fun _ => ?_
    refine keeps_bind ?_ fun _ => keeps_pure _
    intro s
    obtain ⟨_, hrun, hlog⟩ | ⟨_, _, _, hrun, -, hlog⟩ :=
      verifyEvidence_cases (g := g) token key s
    · rw [hrun]
      exact .of_log_eq hlog
    · rw [hrun]
      exact ⟨_, hlog, by simp [PreflightEvent]⟩

structure Admitted (w : World σ) (config : InvocationConfig) (g : ServingGeneration w.federation)
    (message : Bytes) (e : Envelope) : Prop where
  request : verifyRequest w config g message = .ok (e.sealed, e.verifiedKey)
  proof : ∃ token, providerToken e.sealed.protectedHeaders = .ok token ∧
    proofPublic w e.sealed.protectedHeaders token = .ok e.proofKey ∧
    ProofOutcome w g token e.proofKey e.evidence
  target : operationTarget config e.evidence e.sealed = .ok e.target
  recipient : resolveResponseRecipient w g e.sealed.claims e.evidence.isSome = .ok e.recipient

theorem admitEnvelope_ok (h : (admitEnvelope w config g peer message).exec s = (.ok e, s')) :
    Admitted w config g message e ∧
      s'.log = s.log ++ (e.evidence.map Event.evidenceVerified).toList := by
  simp only [admitEnvelope, exec_ok] at h
  obtain ⟨⟨_, _⟩, _, ⟨hrequest, rfl⟩, token, _, ⟨htoken, rfl⟩, _, _, ⟨hkey, rfl⟩,
    evidence, _, hevidence, _, _, ⟨htarget, rfl⟩, _, _, ⟨-, rfl⟩, _, _,
    ⟨hrecipient, rfl⟩, _, _, ⟨-, rfl⟩, rfl, rfl⟩ := h
  obtain ⟨houtcome, hlog⟩ := providerEvidence_ok hevidence
  exact ⟨⟨hrequest, ⟨token, htoken, hkey, houtcome⟩, htarget, hrecipient⟩, hlog⟩

theorem admitEnvelope_log :
    Keeps (Extends PreflightEvent) (admitEnvelope w config g peer message) :=
  keeps_check_bind fun _ _ => keeps_check_bind fun _ _ =>
    keeps_check_bind fun _ _ => keeps_bind (providerEvidence_log _ _) fun _ =>
    keeps_check_bind fun _ _ => keeps_check_bind fun _ _ =>
    keeps_check_bind fun _ _ => keeps_check_bind fun _ _ => keeps_pure _

/-! ### Freshness and quota -/

def HoldsChallenge (table : ChallengeTable) (challenge : FixedBytes 32) (jkt : Jkt)
    (generation : Nat) : Prop :=
  ∃ id suffix expiry, table.instanceId = some id ∧ challenge.bytes = id.bytes ++ suffix.bytes ∧
    table.records.lookup suffix = some ⟨jkt, generation, expiry⟩

theorem consumeChallenge_cases (challenge : FixedBytes 32) (jkt : Jkt) (s : Run σ) :
    (∃ s', (consumeChallenge w g challenge jkt).exec s = (.ok false, s') ∧ s'.log = s.log) ∨
    ∃ s', (consumeChallenge w g challenge jkt).exec s = (.ok true, s') ∧
      HoldsChallenge s.shared.challengeTable challenge jkt g.id ∧
      s'.log = s.log ++ [.challengeConsumed challenge jkt g.id] := by
  unfold consumeChallenge
  rw [exec_ofFun]
  obtain ⟨_, _, hconsume, -⟩ | ⟨id, suffix, expiry, hconsume, hid, hchallenge, hrecord, -⟩ :=
    s.shared.challengeTable.consume_cases challenge.bytes jkt g.id (w.clock .freshness)
  · rw [hconsume]
    exact .inl ⟨_, rfl, rfl⟩
  · rw [hconsume]
    exact .inr ⟨_, rfl, ⟨id, suffix, expiry, hid, hchallenge, hrecord⟩, rfl⟩

theorem consumeFreshnessChallenge_true {key : ProofKey} (hkey : e.proofKey = some key)
    (h : (consumeFreshnessChallenge w config g e).exec s = (.ok true, s')) :
    ∃ challenge, e.sealed.claims.freshnessChallenge = some challenge ∧
      HoldsChallenge (w.others .freshness s.shared).challengeTable challenge
        (proofKeyThumbprint w.federation key) g.id ∧
      s'.log = s.log ++ [.challengeConsumed challenge (proofKeyThumbprint w.federation key) g.id] := by
  unfold consumeFreshnessChallenge at h
  cases hchallenge : e.sealed.claims.freshnessChallenge with
  | none => simp [hchallenge, hkey] at h
  | some challenge =>
    simp only [hchallenge, exec_ok] at h
    obtain ⟨_, _, ⟨hjkt, rfl⟩, _, s₁, hyield, hconsume⟩ := h
    simp only [challengeJkt, hkey, Except.ok.injEq] at hjkt
    subst hjkt
    obtain ⟨_, hrun, -⟩ | ⟨_, hrun, hholds, hlog⟩ :=
      consumeChallenge_cases (g := g) challenge (proofKeyThumbprint w.federation key) s₁
    · rw [hrun] at hconsume
      cases hconsume
    · rw [hrun] at hconsume
      cases hconsume
      cases hyield
      exact ⟨challenge, rfl, hholds, hlog⟩

theorem consumeFreshnessChallenge_log (e : Envelope) :
    Keeps (Extends AdmissionEvent) (consumeFreshnessChallenge w config g e) := by
  unfold consumeFreshnessChallenge
  split
  · exact keeps_pure _
  · next challenge _ =>
    refine keeps_check_bind fun jkt _ => keeps_bind (keeps_yield _) fun _ => ?_
    intro s
    obtain ⟨_, hrun, hlog⟩ | ⟨_, hrun, -, hlog⟩ := consumeChallenge_cases (g := g) challenge jkt s
    · rw [hrun]
      exact .of_log_eq hlog
    · rw [hrun]
      exact ⟨_, hlog, by simp [AdmissionEvent]⟩

def AdmitsCharge (table : RunQuotaTable) (evidence : VerifiedProviderEvidence) (generation now : Nat)
    (receipt : RunQuotaReceipt) : Prop :=
  (table.chargeWithReceipt generation (quotaKey evidence) evidence.maxOperationsPerRun
    evidence.runBucketRetentionSecs now).2 = .ok receipt

theorem chargeRunQuota_cases (evidence : VerifiedProviderEvidence) (s : Run σ) :
    (∃ denial s', (chargeRunQuota w g evidence).exec s = (.ok (some denial), s') ∧
      s'.log = s.log) ∨
    ∃ receipt s', (chargeRunQuota w g evidence).exec s = (.ok none, s') ∧
      AdmitsCharge s.shared.runQuota evidence g.id (w.clock .quota) receipt ∧
      s'.log = s.log ++ [.quotaCharged g.id (quotaKey evidence) receipt] := by
  unfold chargeRunQuota AdmitsCharge
  rw [exec_ofFun]
  rcases s.shared.runQuota.chargeWithReceipt g.id (quotaKey evidence) evidence.maxOperationsPerRun
    evidence.runBucketRetentionSecs (w.clock .quota) with ⟨table, denied | receipt⟩
  · exact .inl ⟨_, _, rfl, rfl⟩
  · exact .inr ⟨receipt, _, rfl, rfl, rfl⟩

theorem chargeQuota_none (hevidence : e.evidence = some evidence)
    (h : (chargeQuota w g e).exec s = (.ok none, s')) :
    ∃ receipt, AdmitsCharge (w.others .quota s.shared).runQuota evidence g.id (w.clock .quota) receipt ∧
      s'.log = s.log ++ [.quotaCharged g.id (quotaKey evidence) receipt] := by
  simp only [chargeQuota, hevidence, exec_bind_ok] at h
  obtain ⟨_, s₁, hyield, hcharge⟩ := h
  obtain ⟨_, _, hrun, -⟩ | ⟨receipt, _, hrun, hadmits, hlog⟩ :=
    chargeRunQuota_cases (g := g) evidence s₁
  · rw [hrun] at hcharge
    cases hcharge
  · rw [hrun] at hcharge
    cases hcharge
    cases hyield
    exact ⟨receipt, hadmits, hlog⟩

theorem chargeQuota_log (e : Envelope) : Keeps (Extends AdmissionEvent) (chargeQuota w g e) := by
  unfold chargeQuota
  split
  · exact keeps_pure _
  · next evidence _ =>
    refine keeps_bind (keeps_yield _) fun _ => ?_
    intro s
    obtain ⟨_, _, hrun, hlog⟩ | ⟨_, _, hrun, -, hlog⟩ := chargeRunQuota_cases (g := g) evidence s
    · rw [hrun]
      exact .of_log_eq hlog
    · rw [hrun]
      exact ⟨_, hlog, by simp [AdmissionEvent]⟩

/-! ### Preparation -/

theorem prepareCharged_log (e : Envelope) (actor : AuthenticatedActor) :
    Keeps (Extends E) (prepareCharged w config g e actor) := by
  refine keeps_check_bind fun recipientKeyId _ => keeps_bind ?_ fun _ => ?_
  · unfold validateCatalogMaterial
    split
    · exact keeps_pure _
    · exact keeps_bind (keeps_yield _) fun _ =>
        keeps_bind (keeps_mapErr _ (keeps_onStore _)) fun _ => keeps_pure _
  · refine keeps_bind ?_ fun _ => keeps_pure _
    exact keeps_check_bind fun _ _ => keeps_bind (keeps_yield _) fun _ =>
      keeps_mapErr _ (keeps_onStore _)

theorem prepareCharged_ok (h : (prepareCharged w config g e actor).exec s = (.ok r, s')) :
    ∃ recipientKeyId body, authorizeDecrypt w config g e actor = .ok recipientKeyId ∧
      r = .proceed ⟨e, actor, body⟩ := by
  simp only [prepareCharged, exec_ok] at h
  obtain ⟨recipientKeyId, _, ⟨hdecrypt, rfl⟩, _, _, -, body, _, -, rfl, rfl⟩ := h
  exact ⟨recipientKeyId, body, hdecrypt, rfl⟩

theorem prepareFresh_log (e : Envelope) :
    Keeps (Extends AdmissionEvent) (prepareFresh w config g peer e) := by
  refine keeps_check_bind fun actor _ => keeps_check_bind fun _ _ =>
    keeps_bind (chargeQuota_log e) fun denial => ?_
  cases denial with
  | some denial => exact keeps_pure _
  | none => exact prepareCharged_log e actor

theorem prepareFresh_ok (h : (prepareFresh w config g peer e).exec s = (.ok r, s')) :
    (∃ denial, r = .denied e denial) ∨
    ∃ actor body s₁ recipientKeyId, r = .proceed ⟨e, actor, body⟩ ∧
      resolveActor w g peer e = .ok actor ∧ (chargeQuota w g e).exec s = (.ok none, s₁) ∧
      authorizeDecrypt w config g e actor = .ok recipientKeyId ∧ s'.log = s₁.log := by
  simp only [prepareFresh, exec_ok] at h
  obtain ⟨actor, _, ⟨hactor, rfl⟩, _, _, ⟨-, rfl⟩, denial, s₁, hcharge, hrest⟩ := h
  cases denial with
  | some denial =>
    simp only [exec_pure, Prod.mk.injEq, Except.ok.injEq] at hrest
    exact .inl ⟨denial, hrest.1.symm⟩
  | none =>
    obtain ⟨recipientKeyId, body, hdecrypt, rfl⟩ := prepareCharged_ok hrest
    -- the empty class: nothing is logged after the charge
    obtain ⟨_, hlog, hnone⟩ : Extends (fun _ => False) s₁ s' :=
      (prepareCharged_log e actor).of_exec hrest
    rw [eq_nil_iff_forall_not_mem.mpr hnone, append_nil] at hlog
    exact .inr ⟨actor, body, s₁, recipientKeyId, rfl, hactor, hcharge, hdecrypt, hlog⟩

def PreparedRequest.envelope : PreparedRequest → Envelope
  | proceed p => p.envelope
  | denied e _ => e

theorem prepareInvocation_log :
    Keeps (Extends PreflightEvent) (prepareInvocation w config g peer message) := by
  refine keeps_bind admitEnvelope_log fun e => keeps_bind ?_ fun fresh => ?_
  · exact fun s => (consumeFreshnessChallenge_log e s).mono AdmissionEvent.preflight
  · split_ifs
    · exact fun s => (prepareFresh_log e s).mono AdmissionEvent.preflight
    · exact keeps_pure _

theorem prepareInvocation_admits
    (h : (prepareInvocation w config g peer message).exec s = (.ok r, s')) :
    ∃ s₁, (admitEnvelope w config g peer message).exec s = (.ok r.envelope, s₁) ∧
      Extends AdmissionEvent s₁ s' := by
  simp only [prepareInvocation, exec_bind_ok] at h
  obtain ⟨e, s₁, hadmit, _, s₂, hfresh, hrest⟩ := h
  have hfresh' : Extends AdmissionEvent s₁ s₂ := (consumeFreshnessChallenge_log e).of_exec hfresh
  split_ifs at hrest
  · have hrest' : Extends AdmissionEvent s₂ s' := (prepareFresh_log e).of_exec hrest
    have henvelope : r.envelope = e := by
      obtain ⟨_, rfl⟩ | ⟨_, _, _, _, rfl, -⟩ := prepareFresh_ok hrest <;> rfl
    rw [henvelope]
    exact ⟨s₁, hadmit, trans_of (Extends _) hfresh' hrest'⟩
  · simp only [exec_pure, Prod.mk.injEq, Except.ok.injEq] at hrest
    obtain ⟨rfl, rfl⟩ := hrest
    exact ⟨s₁, hadmit, hfresh'⟩

theorem prepareInvocation_proceeds {p : PreparedInvocation}
    (h : (prepareInvocation w config g peer message).exec s = (.ok (.proceed p), s')) :
    ∃ s₁ s₂ s₃ recipientKeyId,
      (admitEnvelope w config g peer message).exec s = (.ok p.envelope, s₁) ∧
      (consumeFreshnessChallenge w config g p.envelope).exec s₁ = (.ok true, s₂) ∧
      resolveActor w g peer p.envelope = .ok p.actor ∧
      (chargeQuota w g p.envelope).exec s₂ = (.ok none, s₃) ∧
      authorizeDecrypt w config g p.envelope p.actor = .ok recipientKeyId ∧ s'.log = s₃.log := by
  simp only [prepareInvocation, exec_bind_ok] at h
  obtain ⟨_, s₁, hadmit, _, s₂, hfresh, hrest⟩ := h
  split_ifs at hrest with htrue
  · subst htrue
    obtain ⟨_, hdenied⟩ | ⟨actor, _, s₃, recipientKeyId, hproceed, hactor, hcharge, hdecrypt, hlog⟩ :=
      prepareFresh_ok hrest
    · cases hdenied
    · cases hproceed
      exact ⟨s₁, s₂, s₃, recipientKeyId, hadmit, hfresh, hactor, hcharge, hdecrypt, hlog⟩
  · simp at hrest

/-! ### The whole invocation -/

theorem invoke_log (s : Run σ) :
    Extends PreflightEvent s ((invoke w config g peer message).exec s).2 ∨
    ∃ r s₁, (prepareInvocation w config g peer message).exec s = (.ok r, s₁) ∧
      (Extends (ResponseEvent config r.envelope.recipient) s₁
        ((invoke w config g peer message).exec s).2 ∨
      ∃ p request signature s₂, r = .proceed p ∧ OperationSigned w g p request ∧
        ensureSupportedSigningAlgorithm request.algorithm invokeOp = .ok () ∧
        s₂.log = s₁.log ++ [.backendSigned .operation (signTarget p.envelope request)
          request.message signature] ∧
        Extends (ResponseEvent config r.envelope.recipient) s₂
          ((invoke w config g peer message).exec s).2) := by
  unfold invoke
  by_cases henabled : config.enabled = true
  · rw [ensure_pos henabled, check_ok_bind]
    rcases hprepare : (prepareInvocation w config g peer message).exec s with ⟨_ | r, s₁⟩
    · left
      rw [exec_bind_of_error hprepare]
      exact prepareInvocation_log.of_exec hprepare
    · right
      rw [exec_bind_of_ok hprepare]
      refine ⟨r, s₁, rfl, ?_⟩
      cases r with
      | denied e => exact .inl (respondStatus_log e _ s₁)
      | proceed p =>
        refine (executeInvocation_log p s₁).imp_right ?_
        rintro ⟨request, signature, s₂, hsigned⟩
        exact ⟨p, request, signature, s₂, rfl, hsigned⟩
  · left
    rw [ensure_neg henabled, exec_bind_of_error (exec_check _ _)]
    exact refl_of (Extends _) s

/-! ### What the checks of a provider proof say -/

theorem verifyRequest_ok {sealed : VerifiedSealed} {verifiedKey : SignatureKeyEvidence}
    (h : verifyRequest w config g message = .ok (sealed, verifiedKey)) :
    ∃ outer embedded, w.codec.decodeSign1 message = .ok outer ∧
      w.codec.decodeEncrypt outer.payload = .ok embedded ∧ embedded.claims = some sealed.claims ∧
      sealed.protectedHeaders = outer.protectedHeaders ∧
      policyVerify w g.policy outer.kid outer.algorithm outer.protectedHeaders
        (w.codec.sigStructure outer.protectedBytes [] outer.payload) outer.signature =
          .ok verifiedKey := by
  simp only [verifyRequest, eq_ok] at h
  obtain ⟨_, -, _, -, hverify⟩ := h
  obtain ⟨outer, embedded, houter, hembedded, hclaims, hheaders, hpolicy, -⟩ := verifySealed_ok hverify
  exact ⟨outer, embedded, houter, hembedded, hclaims, hheaders, hpolicy⟩

theorem providerToken_some {token : String} (h : providerToken headers = .ok (some token)) :
    headers.signerCertificatesJwt = [token] := by
  unfold providerToken at h
  split at h
  · cases h
  · simp only [map_eq_ok, mapError_eq_ok, Option.some.injEq] at h
    obtain ⟨_, hfound, rfl⟩ := h
    exact exactlyOneBoundedToken_ok hfound

theorem proofPublic_some {token : Option String} {key : ProofKey}
    (h : proofPublic w headers token = .ok (some key)) :
    ∃ cose, headers.signerPublicKeyCose = some cose ∧ w.decodeProofKey cose = some key := by
  unfold proofPublic at h
  split at h
  · cases h
  · next cose hcose =>
    simp only [eq_ok, Option.some.injEq] at h
    obtain ⟨_, hfound, _, -, rfl⟩ := h
    exact ⟨cose, hcose, hfound⟩

theorem not_carries_of_no_token {key : Option ProofKey} (htoken : providerToken headers = .ok none)
    (hkey : proofPublic w headers none = .ok key) :
    headers.signerCertificatesJwt = [] ∧ headers.signerPublicKeyCose = none := by
  constructor
  · unfold providerToken at htoken
    split at htoken
    · assumption
    · simp [map_eq_ok] at htoken
  · unfold proofPublic at hkey
    split at hkey
    · assumption
    · simp [bind_eq_ok, ensure_eq_ok] at hkey

theorem operationTarget_evidence {sealed : VerifiedSealed} {target : Option String}
    (h : operationTarget config (some evidence) sealed = .ok target) :
    ∃ keyId, target = some keyId ∧ sealed.claims.audience.map (·.1) = some evidence.brokerAudience ∧
      evidence.brokerAudience ∈ config.audiences ∧
      sealed.protectedHeaders.operationTargetKeyId.bind KeyId.asCatalogName = some keyId ∧
      keyId ∈ evidence.artifactSignKeyIds := by
  simp only [operationTarget, validateProviderEnvelopeAuthority, map_eq_ok, eq_ok] at h
  obtain ⟨keyId, ⟨_, ⟨haudience, hconfigured⟩, _, -, found, htarget, _, hlisted, rfl⟩, rfl⟩ := h
  exact ⟨found, rfl, haudience, hconfigured, htarget, hlisted⟩

theorem resolveResponseRecipient_ok {claims : Cose.Claims} {verified : Bool}
    (h : resolveResponseRecipient w g claims verified = .ok recipient) :
    (verified = true ∧ ∃ keyId key, claims.responsePublicKeyCose = some key ∧
      recipient = .ephemeral keyId key) ∨
    (verified = false ∧ claims.responsePublicKeyCose = none ∧ ∃ keyId, recipient = .catalog keyId) := by
  unfold resolveResponseRecipient at h
  rw [bind_eq_ok] at h
  obtain ⟨keyId, -, h⟩ := h
  split at h
  · next key hkey =>
    simp only [eq_ok] at h
    obtain ⟨_, -, rfl⟩ := h
    exact .inl ⟨rfl, keyId, key, hkey, rfl⟩
  · cases h
  · cases h
  · next hkey =>
    simp only [eq_ok] at h
    obtain ⟨_, -, rfl⟩ := h
    exact .inr ⟨rfl, hkey, keyId, rfl⟩

/-! ### The authority of a signature -/

def CarriesProof (w : World σ) (message : Bytes) : Prop :=
  ∃ outer, w.codec.decodeSign1 message = .ok outer ∧
    (outer.protectedHeaders.signerCertificatesJwt ≠ [] ∨
      outer.protectedHeaders.signerPublicKeyCose ≠ none)

def HasClaims (w : World σ) (outer : OuterMessage) (claims : Cose.Claims) : Prop :=
  ∃ embedded, w.codec.decodeEncrypt outer.payload = .ok embedded ∧ embedded.claims = some claims

structure Authority where
  outer : OuterMessage
  claims : Cose.Claims
  token : String
  key : ProofKey
  rule : ProviderRule
  evidence : VerifiedProviderEvidence
  challenge : FixedBytes 32
  receipt : RunQuotaReceipt
  subject : AuthenticatedActor
  requestKeyId : String

/-- The tables are those of the run from `s`, once other requests have run where it waits. -/
structure Authority.Admitted (a : Authority) (w : World σ) (config : InvocationConfig)
    (g : ServingGeneration w.federation) (peer : PeerInfo) (message : Bytes) (s : Run σ) (e : Envelope)
    (s₁ s₂ : Run σ) : Prop where
  envelope : (admitEnvelope w config g peer message).exec s = (.ok e, s₁)
  fresh : (consumeFreshnessChallenge w config g e).exec s₁ = (.ok true, s₂)
  challenge : HoldsChallenge (w.others .freshness s₁.shared).challengeTable a.challenge
    (proofKeyThumbprint w.federation a.key) g.id
  charge : AdmitsCharge (w.others .quota s₂.shared).runQuota a.evidence g.id (w.clock .quota) a.receipt

structure Authority.Holds (a : Authority) (w : World σ) (config : InvocationConfig)
    (g : ServingGeneration w.federation) (peer : PeerInfo) (message : Bytes) (s : Run σ)
    (keyId : String) : Prop where
  decoded : w.codec.decodeSign1 message = .ok a.outer
  claims : HasClaims w a.outer a.claims
  proofKey : a.outer.protectedHeaders.signerPublicKeyCose.bind w.decodeProofKey = some a.key
  signature : a.outer.algorithm = .edDsa ∧ ed25519Verifies w a.key
    (w.codec.sigStructure a.outer.protectedBytes [] a.outer.payload) a.outer.signature = true
  kid : a.outer.kid.bytes = Cbor.textBytes (thumbprint w.federation a.key)
  oneToken : a.outer.protectedHeaders.signerCertificatesJwt = [a.token]
  rule : VerifiedUnder w g a.token a.key a.rule a.evidence
  boundAudience : ∃ payload, w.federation.payload a.token = some payload ∧
    payload.strClaim "aud" = some (proofAudience w.federation a.key)
  audience : a.claims.audience.map (·.1) = some a.rule.audience ∧ a.rule.audience ∈ config.audiences
  challenge : a.claims.freshnessChallenge = some a.challenge
  admitted : ∃ e s₁ s₂, a.Admitted w config g peer message s e s₁ s₂
  subject : g.pdp.resolveSubjectActor a.rule.subject = some a.subject
  decrypt : config.requestEncryptionKeyId = some a.requestKeyId ∧
    g.pdp.allows { a.subject with presenter := peer } .decrypt a.requestKeyId = true
  sign : g.pdp.allows { a.subject with presenter := peer } .sign keyId = true
  target : a.outer.protectedHeaders.operationTargetKeyId.bind KeyId.asCatalogName = some keyId ∧
    keyId ∈ a.rule.artifactSignKeyIds

def Authority.effects (a : Authority) (w : World σ) (g : ServingGeneration w.federation) :
    List Event :=
  [.evidenceVerified a.evidence,
    .challengeConsumed a.challenge (proofKeyThumbprint w.federation a.key) g.id,
    .quotaCharged g.id ⟨a.rule.id, a.evidence.claims.runId, a.evidence.claims.runAttempt⟩ a.receipt]

theorem proceeds_with_authority {p : PreparedInvocation} {request : SignInvocationRequest}
    (hproof : CarriesProof w message) (hs : s.log = [])
    (h : (prepareInvocation w config g peer message).exec s = (.ok (.proceed p), s'))
    (hsigned : OperationSigned w g p request) :
    ∃ a : Authority, a.Holds w config g peer message s (signTarget p.envelope request) ∧
      s'.log = a.effects w g := by
  obtain ⟨_, _, _, _, hadmit, hfresh, hactor, hcharge, hdecrypt, hlog⟩ := prepareInvocation_proceeds h
  obtain ⟨⟨hrequest, ⟨token, htoken, hpublic, houtcome⟩, htarget, -⟩, hlog₁⟩ := admitEnvelope_ok hadmit
  obtain ⟨outer, embedded, houter, hembedded, hclaims, hheaders, hpolicy⟩ := verifyRequest_ok hrequest
  generalize hkey : p.envelope.proofKey = proofKey at houtcome hpublic
  generalize hevidence : p.envelope.evidence = outcome at houtcome htarget hlog₁
  cases houtcome with
  | absent =>
    -- neither a token nor a proof key would have been presented
    obtain ⟨hnone, hnone'⟩ := not_carries_of_no_token htoken hpublic
    obtain ⟨_, houter', hcarries⟩ := hproof
    rw [houter, Except.ok.injEq] at houter'
    subst houter'
    rw [hheaders] at hnone hnone'
    exact absurd hcarries (by simp [hnone, hnone'])
  | @verified token key rule evidence hrule =>
    obtain ⟨challenge, hchallenge, hholds, hlog₂⟩ := consumeFreshnessChallenge_true hkey hfresh
    obtain ⟨receipt, hadmits, hlog₃⟩ := chargeQuota_none hevidence hcharge
    simp only [resolveActor, hevidence, eq_ok] at hactor
    obtain ⟨subject, hsubject, hpactor⟩ := hactor
    simp only [authorizeDecrypt, validateRequestRecipientKey, eq_ok] at hdecrypt
    obtain ⟨requestKeyId, -, _, ⟨_, hconfigured, rfl⟩, _, hdecrypts, rfl⟩ := hdecrypt
    obtain ⟨keyId, hkeyId, haudience, haudiences, hheader, hlisted⟩ := operationTarget_evidence htarget
    obtain ⟨_, hcose, hdecode⟩ := proofPublic_some hpublic
    rw [hheaders] at hcose hheader
    simp only [policyVerify, hcose, eq_ok] at hpolicy
    obtain ⟨key', hdecode', _, ⟨hkid, halgorithm, hverifies⟩, -⟩ := hpolicy
    obtain rfl : key' = key := Option.some.inj (hdecode'.symm.trans hdecode)
    obtain ⟨_, hverify⟩ := hrule.verified
    have heq := hrule.evidence_eq
    have htargeted : signTarget p.envelope request = keyId := by
      rw [signTarget, hkeyId]
      rfl
    have hsign := hsigned.allowed
    rw [← hpactor] at hdecrypts hsign
    rw [heq] at haudience haudiences hlisted hsubject
    refine ⟨⟨outer, p.envelope.sealed.claims, token, key', rule, evidence, challenge, receipt, subject,
      requestKeyId⟩, ?_, ?_⟩
    · exact {
        decoded := houter
        claims := ⟨embedded, hembedded, hclaims⟩
        proofKey := by rw [hcose]; exact hdecode
        signature := ⟨halgorithm, hverifies⟩
        kid := hkid
        oneToken := hheaders ▸ providerToken_some htoken
        rule := hrule
        boundAudience := verifyRule_audience hverify
        audience := ⟨haudience, haudiences⟩
        challenge := hchallenge
        admitted := ⟨_, _, _, hadmit, hfresh, hholds, hadmits⟩
        subject := hsubject
        decrypt := ⟨hconfigured, hdecrypts⟩
        sign := hsign
        target := by rw [htargeted]; exact ⟨hheader, hlisted⟩ }
    · have hquotaKey : quotaKey evidence =
          ⟨rule.id, evidence.claims.runId, evidence.claims.runAttempt⟩ := by
        conv_lhs => rw [heq]
        rfl
      rw [hlog, hlog₃, hlog₂, hlog₁, hs, hquotaKey]
      rfl

def Event.isAnswer : Event → Bool
  | .responseSealed _ _ | .backendSigned .response _ _ _ => true
  | _ => false

theorem ResponseEvent.isAnswer (h : ResponseEvent config recipient event) :
    event.isAnswer = true := by
  unfold ResponseEvent at h
  split at h
  · rfl
  · rfl
  · exact h.elim

theorem PreflightEvent.not_isAnswer (h : PreflightEvent event) : event.isAnswer = false := by
  match event, h with
  | .evidenceVerified _, _ | .challengeConsumed _ _ _, _ | .quotaCharged _ _ _, _ => rfl

theorem Extends.filter_answer (h : Extends (ResponseEvent config recipient) s s') :
    s'.log.filter (!·.isAnswer) = s.log.filter (!·.isAnswer) := by
  obtain ⟨added, hlog, hanswers⟩ := h
  have hnone : added.filter (!·.isAnswer) = [] := by
    rw [filter_eq_nil_iff]
    intro event hevent
    simp [(hanswers event hevent).isAnswer]
  rw [hlog, filter_append, hnone, append_nil]

section Signed

variable {keyId : String} {payload signature : Bytes} (hs : s.log = [])
  (h : .backendSigned .operation keyId payload signature ∈
    ((invoke w config g peer message).exec s).2.log)
include hs h

theorem operation_signed :
    ∃ p request s₁ s₂, (prepareInvocation w config g peer message).exec s = (.ok (.proceed p), s₁) ∧
      OperationSigned w g p request ∧
      ensureSupportedSigningAlgorithm request.algorithm invokeOp = .ok () ∧
      keyId = signTarget p.envelope request ∧ payload = request.message ∧
      s₂.log = s₁.log ++ [.backendSigned .operation keyId payload signature] ∧
      Extends (ResponseEvent config p.envelope.recipient) s₂
        ((invoke w config g peer message).exec s).2 := by
  have hnot : ∀ {s₁ : Run σ}, Extends PreflightEvent s s₁ →
      .backendSigned .operation keyId payload signature ∉ s₁.log := by
    intro s₁ hpreflight hmem
    have hevent := hpreflight.mem hmem
    rw [hs] at hevent
    simp [PreflightEvent, AdmissionEvent] at hevent
  obtain hpreflight | ⟨_, s₁, hprepare, hsigned⟩ := invoke_log (w := w) (g := g) s
  · exact absurd h (hnot hpreflight)
  have habsent := hnot (prepareInvocation_log.of_exec hprepare)
  obtain hanswer | ⟨p, request, _, s₂, rfl, hsigned, hsupported, hlog, hanswer⟩ := hsigned
  · exact absurd ((hanswer.mem h).resolve_right id) habsent
  · have hmem := (hanswer.mem h).resolve_right id
    rw [hlog, mem_append] at hmem
    cases mem_singleton.mp (hmem.resolve_left habsent)
    exact ⟨p, request, s₁, s₂, hprepare, hsigned, hsupported, rfl, rfl, hlog, hanswer⟩

theorem operation_signature_authority (hproof : CarriesProof w message) :
    ∃ a : Authority, a.Holds w config g peer message s keyId ∧
      ((invoke w config g peer message).exec s).2.log.filter (!·.isAnswer) =
        a.effects w g ++ [.backendSigned .operation keyId payload signature] := by
  obtain ⟨_, _, _, _, hprepare, hsigned, -, rfl, -, hlog, hanswer⟩ := operation_signed hs h
  obtain ⟨a, hholds, heffects⟩ := proceeds_with_authority hproof hs hprepare hsigned
  refine ⟨a, hholds, ?_⟩
  rw [hanswer.filter_answer, hlog, heffects]
  rfl

end Signed

def LaterEvent : Event → Prop
  | .evidenceVerified _ => False
  | _ => True

theorem AdmissionEvent.later (event : Event) (h : AdmissionEvent event) : LaterEvent event := by
  cases event <;> trivial

theorem ResponseEvent.later (event : Event) (h : ResponseEvent config recipient event) :
    LaterEvent event := by
  cases event <;> trivial

theorem answered (hs : s.log = []) (hanswer : event.isAnswer = true)
    (h : event ∈ ((invoke w config g peer message).exec s).2.log) :
    ∃ e s₁, (admitEnvelope w config g peer message).exec s = (.ok e, s₁) ∧
      ResponseEvent config e.recipient event ∧
      Extends LaterEvent s₁ ((invoke w config g peer message).exec s).2 := by
  have hnot : ∀ {s₁ : Run σ}, Extends PreflightEvent s s₁ → event ∉ s₁.log := by
    intro s₁ hpreflight hmem
    have hevent := hpreflight.mem hmem
    rw [hs] at hevent
    have := (hevent.resolve_left (by simp)).not_isAnswer
    simp [hanswer] at this
  obtain hpreflight | ⟨_, s₁, hprepare, houtcome⟩ := invoke_log (w := w) (g := g) s
  · exact absurd h (hnot hpreflight)
  have habsent : event ∉ s₁.log := hnot (prepareInvocation_log.of_exec hprepare)
  obtain ⟨s₀, hadmit, hadmission⟩ := prepareInvocation_admits hprepare
  have hbefore : Extends LaterEvent s₀ s₁ := hadmission.mono AdmissionEvent.later
  obtain hanswers | ⟨_, _, _, s₂, rfl, -, -, hlog, hanswers⟩ := houtcome
  · exact ⟨_, s₀, hadmit, (hanswers.mem h).resolve_left habsent,
      trans_of (Extends _) hbefore (hanswers.mono ResponseEvent.later)⟩
  · have hoperation : Extends LaterEvent s₁ s₂ := ⟨_, hlog, by simp [LaterEvent]⟩
    have habsent' : event ∉ s₂.log := by
      rw [hlog, mem_append, mem_singleton]
      rintro (hmem | rfl)
      · exact habsent hmem
      · cases hanswer
    exact ⟨_, s₀, hadmit, (hanswers.mem h).resolve_left habsent',
      trans_of (Extends _) (trans_of (Extends _) hbefore hoperation)
        (hanswers.mono ResponseEvent.later)⟩

theorem signature_requires_authority (w : World σ) (config : InvocationConfig)
    (g : ServingGeneration w.federation) (peer : PeerInfo) (message : Bytes) (shared : Shared σ) :
    let log := ((invoke w config g peer message).exec ⟨shared, []⟩).2.log
    (CarriesProof w message → ∀ site keyId payload signature,
      .backendSigned site keyId payload signature ∈ log →
        match site with
        | .operation => ∃ a : Authority, a.Holds w config g peer message ⟨shared, []⟩ keyId ∧
            log.filter (!·.isAnswer) =
              a.effects w g ++ [.backendSigned .operation keyId payload signature]
        | .response =>
            config.brokerIdentity.map BrokerIdentity.responseSigningKeyId = some keyId) ∧
    ∀ recipient key, .responseSealed recipient key ∈ log →
      ∃ outer claims, w.codec.decodeSign1 message = .ok outer ∧ HasClaims w outer claims ∧
        ((∃ evidence, .evidenceVerified evidence ∈ log) ↔ claims.responsePublicKeyCose = some key) ∧
        ((∃ evidence, .evidenceVerified evidence ∈ log) ↔ ∃ keyId, recipient = .ephemeral keyId key) ∧
        ((¬ ∃ evidence, .evidenceVerified evidence ∈ log) ↔ ∃ keyId, recipient = .catalog keyId) := by
  intro log
  constructor
  · intro hproof site keyId payload signature hmem
    cases site with
    | operation => exact operation_signature_authority rfl hmem hproof
    | response =>
      obtain ⟨e, s₁, -, hevent, -⟩ := answered rfl rfl hmem
      exact hevent
  · intro recipient key hmem
    obtain ⟨e, s₁, hadmit, ⟨rfl, hkey⟩, hlater⟩ := answered rfl rfl hmem
    obtain ⟨hadmitted, hlog⟩ := admitEnvelope_ok hadmit
    obtain ⟨outer, embedded, houter, hembedded, hclaims, -⟩ := verifyRequest_ok hadmitted.request
    have hverified : (∃ evidence, .evidenceVerified evidence ∈ log) ↔ e.evidence.isSome = true := by
      obtain ⟨added, hall, hadded⟩ := hlater
      have hnone : ∀ evidence, .evidenceVerified evidence ∉ added :=
        fun evidence hevidence => hadded _ hevidence
      show (∃ evidence, _ ∈ Run.log _) ↔ _
      rw [hall, hlog]
      cases e.evidence with
      | none => simp [hnone]
      | some evidence => simp
    refine ⟨outer, _, houter, ⟨embedded, hembedded, hclaims⟩, ?_⟩
    rw [hverified]
    obtain ⟨hisSome, keyId, key', hpublic, hrecipient⟩ | ⟨hisNone, hpublic, keyId, hrecipient⟩ :=
      resolveResponseRecipient_ok hadmitted.recipient
    · obtain rfl := hkey keyId key' hrecipient
      simp [hisSome, hpublic, hrecipient]
    · simp [hisNone, hpublic, hrecipient]

/-! ### The direct request -/

theorem resolveLocalActor_uid {pdp : Pdp} (h : pdp.resolveLocalActor peer = .ok actor) :
    ∃ uid, requireUnixUid actor "sign" = .ok uid := by
  cases huid : peer.uid with
  | none => simp [Pdp.resolveLocalActor, resolveLocalActor, huid] at h
  | some uid =>
    simp only [Pdp.resolveLocalActor, resolveLocalActor, huid, resolveUnixActorAs,
      resolveEvidenceActor] at h
    split at h
    · cases h
    · split at h
      · cases h
      · cases h
        exact ⟨uid, by simp [requireUnixUid, AuthenticatedActor.unixUid, huid, orErr]⟩

/-- The direct `Sign` request passes every check of its RPC, for `actor`. -/
structure DirectPasses (m : Manager σ) (limits : BrokerLimits) (g : Generation) (ctx : RequestContext)
    (body : SignRequest) (actor : AuthenticatedActor) : Prop where
  authorized : Signing.signAuthorize m limits g ctx body = .ok (actor, m.mlDsaAlgorithmFor body.keyId)
  custody : m.mlDsaAlgorithmFor body.keyId ≠ none → providerGate g actor body.keyId = true

theorem sealed_sign_within_direct {shared : Shared σ} {limits : BrokerLimits} {keyId : String}
    {payload signature : Bytes}
    (h : .backendSigned .operation keyId payload signature ∈
      ((invoke w config g peer message).exec ⟨shared, []⟩).2.log) :
    ∃ p request s₁,
      (prepareInvocation w config g peer message).exec ⟨shared, []⟩ = (.ok (.proceed p), s₁) ∧
      w.decodeSignRequest p.body = some request ∧ keyId = signTarget p.envelope request ∧
      payload = request.message ∧
      ∀ ctx : RequestContext, g.pdp.resolveLocalActor ctx.peer = .ok p.actor →
        ctx.listener = some .host →
        (DirectPasses w.manager limits g.toGeneration ctx ⟨keyId, request.algorithm, payload⟩ p.actor ↔
          payload.length ≤ limits.maxPayloadSize ∧
            (w.manager.mlDsaAlgorithmFor keyId ≠ none →
              providerGate g.toGeneration p.actor keyId = true)) := by
  obtain ⟨p, request, s₁, _, hprepare, hsigned, hsupported, rfl, rfl, -⟩ := operation_signed rfl h
  refine ⟨p, request, s₁, hprepare, hsigned.body, rfl, rfl, ?_⟩
  intro ctx hactor hlistener
  obtain ⟨uid, huid⟩ := resolveLocalActor_uid hactor
  have halgorithm : ensureSupportedSigningAlgorithm request.algorithm "sign" = .ok () :=
    ensure_eq_ok.mpr (ensure_eq_ok.mp hsupported)
  have hauthorized := authorizeInGeneration_ok.mpr ⟨hactor, hlistener, hsigned.allowed⟩
  constructor
  · rintro ⟨hdirect, hgate⟩
    simp only [Signing.signAuthorize, hauthorized, huid, halgorithm, ok_bind, eq_ok] at hdirect
    obtain ⟨_, hcap, -⟩ := hdirect
    exact ⟨hcap, hgate⟩
  · rintro ⟨hcap, hgate⟩
    refine ⟨?_, hgate⟩
    simp only [Signing.signAuthorize, hauthorized, huid, halgorithm, ensure_pos hcap, ok_bind]
    rfl

/-! ### A release workflow that signs

One rule, its subject allowed to decrypt requests and to sign with `web.signer`. The body of
the request names another key. -/

def workflowKey (keyClass : KeyClass) (path : String) : KeyEntry where
  keyClass := keyClass
  keyType := some .ed25519
  backend := "vault"
  engine := none
  path := path
  publicPath := none
  writable := false
  missing := .error
  nixCache := none
  generate := none
  sealingPin := none
  labels := ⟨[]⟩
  description := "release workflow"

def workflowCatalog : Catalog where
  backends := ⟨[("vault", ⟨.vault, "", [], [], [], []⟩)], by decide⟩
  keys := ⟨[("broker.request", workflowKey .sealing "broker-request"),
    ("broker.response", workflowKey .asymmetric "broker-response"),
    ("web.signer", workflowKey .asymmetric "web-signer")], by decide⟩

def workflowPolicy : ResolvedPolicy where
  subjects := ⟨[("ci.release", ⟨.hostProcess, false, .leaf (.processUid (.numeric 9100))⟩)], by decide⟩
  rules := [⟨["ci.release"], [⟨.decrypt, .anyKey, "r1", "op:decrypt"⟩, ⟨.sign, .anyKey, "r1", "op:sign"⟩]⟩]

def workflowGeneration : ServingGeneration ciEnv where
  id := 1
  catalog := workflowCatalog
  policy := workflowPolicy
  config := ⟨⟨OrdMap.empty, OrdMap.empty⟩, OrdMap.empty⟩
  federation := some ⟨[releaseRule], by decide, by decide, by decide⟩
  access := ⟨["release"], fun _ => none⟩

def workflowManager : Manager Unit where
  catalog := workflowCatalog
  instances := ["vault"]
  prims :=
    { Primitives.refusing with
      ed25519Verify := fun key _ signature =>
        key.bytes == .replicate 32 9 && signature == .fill 64 3 }
  backendOf := fun _ =>
    { newKey := fun _ => .fail (.unsupported "new_key")
      publicKey := fun _ => .fail (.unsupported "public_key")
      sign := fun path message => pure (Cbor.textBytes path ++ message)
      verify := fun _ _ _ => .fail (.unsupported "verify") }

def workflowClaims : Cose.Claims where
  issuer := some ⟨"ci.release", by decide⟩
  audience := some ⟨"basil", by decide⟩
  expiresAt := none
  issuedAt := 1000
  messageId := .single 1
  senderKeyId := KeyId.fromText "jkt"
  responseKeyId := KeyId.fromText "answer"
  responseSubject := none
  inReplyTo := none
  requestHash := none
  freshnessChallenge := some (.fill 32 5)
  responsePublicKeyCose := some (.fill 32 4)

def workflowOuter : OuterMessage where
  kid := ⟨Cbor.textBytes "jkt", by decide⟩
  algorithm := .edDsa
  protectedHeaders := ⟨["release-token"], some [9], KeyId.fromText "web.signer"⟩
  protectedBytes := []
  payload := [2]
  signature := .replicate 64 3

def workflowWorld : World Unit where
  codec := {
    decodeSign1 := fun _ => .ok workflowOuter
    decodeEncrypt := fun _ => .ok ⟨some workflowClaims, contentTypeSignRequest,
      ⟨Cbor.textBytes "broker.request", by decide⟩, .anonymous⟩
    sigStructure := fun outer aad payload => outer ++ aad ++ payload
    responseThumbprint := fun _ => "answer" }
  federation := ciEnv
  manager := workflowManager
  decodeProofKey := fun _ => some (.fill 32 9)
  b64UrlDecode := fun _ => none
  natsVerify := fun _ _ _ => false
  decodeSignRequest := fun body => some ⟨"broker.response", body, 0⟩
  encodeSignResponse := fun _ => [6]
  requestHash := fun _ => .fill 32 7
  unsealCose := fun _ sealed => pure sealed
  encryptTo := fun _ _ _ body _ => some body
  outerProtected := fun _ => some [8]
  assembleSign1 := fun outer payload signature => outer ++ payload ++ signature
  correlation := .fill 32 2
  responseMessageId := .single 2
  clock := fun _ => 1010
  others := fun _ shared => shared

def workflowConfig : InvocationConfig where
  enabled := true
  requireChallenge := true
  challengeTable := .default
  runQuotaBucketsPerRule := 16
  brokerIdentity := some ⟨"broker", "broker.response"⟩
  audiences := ["basil"]
  requestEncryptionKeyId := some "broker.request"
  maxTtlSecs := 300
  clockSkewSecs := 60

def workflowShared : Shared Unit where
  store := ()
  challengeTable := { withConfig .default (some (.fill _ 5)) with
    records := (∅ : Table Suffix Record).insert (.fill _ 5) ⟨.fill 32 0, 1, 2000⟩ }
  runQuota := .new 16
  jwksCaches := (∅ : JwksCaches).insert "release" ⟨.default, some githubKeys, some 1000, none⟩

theorem workflow_signs : .backendSigned .operation "web.signer" [2] (Cbor.textBytes "web-signer" ++ [2]) ∈
    ((invoke workflowWorld workflowConfig workflowGeneration ⟨none, some 9100, none⟩
      [0]).exec ⟨workflowShared, []⟩).2.log := by
  decide +kernel

theorem workflow_signature_authorized :
    let log := ((invoke workflowWorld workflowConfig workflowGeneration ⟨none, some 9100, none⟩
      [0]).exec ⟨workflowShared, []⟩).2.log
    .backendSigned .operation "web.signer" [2] (Cbor.textBytes "web-signer" ++ [2]) ∈ log ∧
      .responseSealed (.ephemeral "answer" (.fill 32 4)) (.fill 32 4) ∈ log ∧
      ∃ a : Authority, a.Holds workflowWorld workflowConfig workflowGeneration
        ⟨none, some 9100, none⟩ [0] ⟨workflowShared, []⟩ "web.signer" := by
  intro log
  have hsealed : .responseSealed (.ephemeral "answer" (.fill 32 4)) (.fill 32 4) ∈ log := by decide
  have hproof : CarriesProof workflowWorld [0] := ⟨workflowOuter, rfl, .inl (by decide)⟩
  obtain ⟨hauthority, -⟩ := signature_requires_authority workflowWorld workflowConfig
    workflowGeneration ⟨none, some 9100, none⟩ [0] workflowShared
  obtain ⟨a, hholds, -⟩ := hauthority hproof .operation _ _ _ workflow_signs
  exact ⟨workflow_signs, hsealed, a, hholds⟩

def actorOf : Except Status PreparedRequest → Option AuthenticatedActor
  | .ok (.proceed p) => some p.actor
  | _ => none

theorem workflow_sign_within_direct :
    ∃ p request s₁, (prepareInvocation workflowWorld workflowConfig workflowGeneration
        ⟨none, some 9100, none⟩ [0]).exec ⟨workflowShared, []⟩ = (.ok (.proceed p), s₁) ∧
      workflowWorld.decodeSignRequest p.body = some request ∧
      Signing.signAuthorize workflowManager ⟨0, 1, 0⟩ workflowGeneration.toGeneration
        ⟨⟨none, some 9100, none⟩, some .host⟩ ⟨"web.signer", request.algorithm, [2]⟩ =
          .ok (p.actor, none) := by
  have hcap : [2].length ≤ (⟨0, 1, 0⟩ : BrokerLimits).maxPayloadSize := by decide
  have hclassical : workflowManager.mlDsaAlgorithmFor "web.signer" = none := by decide
  obtain ⟨p, request, s₁, hprepare, hbody, -, -, hdirect⟩ := sealed_sign_within_direct workflow_signs
  refine ⟨p, request, s₁, hprepare, hbody,
    ((hdirect _ ?_ rfl).mpr ⟨hcap, fun hmlDsa => absurd hclassical hmlDsa⟩).authorized⟩
  have hprepared : actorOf ((prepareInvocation workflowWorld workflowConfig workflowGeneration
      ⟨none, some 9100, none⟩ [0]).exec ⟨workflowShared, []⟩).1 =
        some ⟨.hostProcess, "ci.release", ⟨none, some 9100, none⟩⟩ := by decide
  rw [hprepare] at hprepared
  rw [Option.some.inj hprepared]
  rfl

theorem sealed_sign_exceeds_cap :
    .backendSigned .operation "web.signer" [2] (Cbor.textBytes "web-signer" ++ [2]) ∈
      ((invoke workflowWorld workflowConfig workflowGeneration ⟨none, some 9100, none⟩
        [0]).exec ⟨workflowShared, []⟩).2.log ∧
    ∀ algorithm : Int, 0 ≤ algorithm → algorithm ≤ 7 →
      Signing.signAuthorize workflowManager ⟨0, 0, 0⟩ workflowGeneration.toGeneration
        ⟨⟨none, some 9100, none⟩, some .host⟩ ⟨"web.signer", algorithm, [2]⟩ =
          .error (payloadTooLarge "sign" "sign message exceeds configured cap") := by
  refine ⟨workflow_signs, ?_⟩
  intro algorithm hlow hhigh
  have hactor : authorizeInGeneration workflowGeneration.toGeneration
      ⟨⟨none, some 9100, none⟩, some .host⟩ .sign "web.signer" =
        .ok ⟨.hostProcess, "ci.release", ⟨none, some 9100, none⟩⟩ := by decide
  have halgorithm : ensureSupportedSigningAlgorithm algorithm "sign" = .ok () :=
    ensure_eq_ok.mpr ⟨hlow, hhigh⟩
  simp only [Signing.signAuthorize, hactor, halgorithm, ok_bind]
  rfl

end Basil.Invocation
