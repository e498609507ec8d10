import Basil.BundleText

/-!
# What the deposit log can change

The effective credential of a backend is that of its greatest eligible record, by sequence,
contributor and position in the log.
-/

namespace Basil.Bundle

open FixedBytes X25519Seal OrdMap List Candidate

/-! ### The two passes find the greatest candidate -/

def Candidate.rank (c : Candidate) : Nat ×ₗ (String ×ₗ Nat) :=
  toLex (c.seq, toLex (c.contributorKeyId, c.index))

section Selection

variable {candidates : List Candidate}

abbrev InOrder (candidates : List Candidate) : Prop :=
  candidates.Pairwise fun a b => a.index < b.index

theorem InOrder.pairs (horder : InOrder candidates) :
    candidates.Pairwise fun a b => a.pair = b.pair → a.index < b.index := by
  refine List.Pairwise.imp ?_ horder
  intro a b hlt _
  exact hlt

def KeptForPair (candidates : List Candidate) (c : Candidate) : Prop :=
  GreatestBy (fun d : Candidate => toLex (d.seq, d.index)) (fun d => d ∈ candidates ∧ d.pair = c.pair) c

variable {c : Candidate}

theorem keptForPair_unique {d : Candidate} (hc : KeptForPair candidates c)
    (hd : KeptForPair candidates d) (hpair : c.pair = d.pair) : c.index = d.index := by
  have hcd := hd.2 c ⟨hc.1.1, hpair⟩
  have hdc := hc.2 d ⟨hd.1.1, hpair.symm⟩
  rw [Prod.Lex.toLex_le_toLex] at hcd hdc
  omega

variable (horder : InOrder candidates)
include horder

theorem entry_keptForPair {k : String ×ₗ String}
    (h : (k, c) ∈ (keepMax pair seq candidates).entries) :
    k = c.pair ∧ KeptForPair candidates c := by
  obtain ⟨⟨hmem, rfl⟩, hle⟩ := keepMax_eq_some horder.pairs (get?_eq_some_iff.mpr h)
  exact ⟨rfl, ⟨hmem, rfl⟩, hle⟩

theorem byPair_keptForPair (h : c ∈ byPair candidates) : KeptForPair candidates c := by
  obtain ⟨⟨_, _⟩, hentry, rfl⟩ := mem_map.mp h
  exact (entry_keptForPair horder hentry).2

theorem byPair_contributors :
    (byPair candidates).Pairwise fun a b =>
      a.backendId = b.backendId → a.contributorKeyId < b.contributorKeyId := by
  unfold byPair
  rw [pairwise_map]
  refine (sorted _).imp_of_mem ?_
  rintro ⟨_, a⟩ ⟨_, b⟩ ha hb hlt hbackend
  obtain ⟨rfl, -⟩ := entry_keptForPair horder ha
  obtain ⟨rfl, -⟩ := entry_keptForPair horder hb
  rw [pair, pair, Prod.Lex.toLex_lt_toLex] at hlt
  rcases hlt with hlt | ⟨-, hlt⟩
  · exact hlt
  · exact absurd hbackend (ne_of_lt hlt)

theorem exists_byPair (h : c ∈ candidates) :
    ∃ p ∈ byPair candidates, p.contributorKeyId = c.contributorKeyId ∧
      p.backendId = c.backendId ∧ toLex (c.seq, c.index) ≤ toLex (p.seq, p.index) := by
  cases hkept : (keepMax pair seq candidates).get? c.pair with
  | none => exact absurd rfl (keepMax_eq_none horder.pairs hkept c h)
  | some p =>
    obtain ⟨⟨-, hpair⟩, hle⟩ := keepMax_eq_some horder.pairs hkept
    have hpair' := toLex.injective hpair
    refine ⟨p, mem_map.mpr ⟨_, get?_eq_some_iff.mp hkept, rfl⟩,
      congrArg Prod.fst hpair', congrArg Prod.snd hpair', hle c ⟨h, rfl⟩⟩

theorem byBackend_eq_none {b : String} (h : (byBackend candidates).get? b = none) :
    ∀ c ∈ candidates, c.backendId ≠ b := by
  intro c hc hb
  obtain ⟨p, hp, -, hbackend, -⟩ := exists_byPair horder hc
  exact keepMax_eq_none (byPair_contributors horder) h p hp (hbackend.trans hb)

theorem byBackend_greatest {b : String} (h : (byBackend candidates).get? b = some c) :
    GreatestBy rank (fun d => d ∈ candidates ∧ d.backendId = b) c := by
  obtain ⟨⟨hmem, hb⟩, hgreatest⟩ := keepMax_eq_some (byPair_contributors horder) h
  have hkept : KeptForPair candidates c := byPair_keptForPair horder hmem
  refine ⟨⟨hkept.1.1, hb⟩, ?_⟩
  rintro d ⟨hd, hdb⟩
  obtain ⟨p, hp, hcontributor, hbackend, hle⟩ := exists_byPair horder hd
  have hpc := hgreatest p ⟨hp, hbackend.trans hdb⟩
  rw [Prod.Lex.toLex_le_toLex] at hpc hle
  dsimp only at hpc hle
  simp only [rank, Prod.Lex.toLex_le_toLex]
  rcases hpc with hseq | ⟨hseq, hcontributors⟩
  · omega
  rcases hle with hseq' | ⟨hseq', _⟩
  · omega
  refine .inr ⟨by omega, ?_⟩
  rcases lt_or_eq_of_le hcontributors with hlt | heq
  · exact .inl (hcontributor ▸ hlt)
  · -- the representative of `d` is `c` itself
    have hpair : p.pair = c.pair := by
      rw [pair, pair, heq, hbackend, hdb, hb]
    have hsame : p.index = c.index := keptForPair_unique (byPair_keptForPair horder hp) hkept hpair
    exact .inr ⟨hcontributor ▸ heq, by omega⟩

end Selection

/-! ### Eligible records -/

variable {env : DepositEnv} {parsed : ParsedBundle} {creds : CredBundle}

structure Eligible (env : DepositEnv) (parsed : ParsedBundle) (creds : CredBundle)
    (record : DepositRecord) (cred : BackendCred) : Prop where
  current : record.epoch = parsed.body.header.epoch
  delegated : ∃ contributor, creds.deposit.contributors.get? record.contributorKeyId = some contributor ∧
    record.backendId ∈ contributor.allowedBackendIds ∧
    ∃ key, publicKeyFromToken env contributor.publicKey = .ok key ∧
      ∃ signature : FixedBytes 64, record.signature = signature.bytes ∧
        env.ed25519Verify key (depositSigningBytes env.json record) signature = true
  opened : ∃ ingest envelope plaintext, creds.deposit.ingestPrivateKey = some ingest ∧
    envelopeFromParts record.sealedCred.encapsulatedKey record.sealedCred.nonce
      record.sealedCred.ciphertext = .ok envelope ∧
    openEnvelope env.crypto ingest envelope (depositAad env parsed.body.header
      record.backendId record.epoch record.seq record.contributorKeyId) = .ok plaintext ∧
    env.json.credFromSlice plaintext = .ok cred

variable {record : DepositRecord} {cred : BackendCred}

theorem reviewCred_ok_iff {ingest : FixedBytes 32}
    (hingest : creds.deposit.ingestPrivateKey = some ingest) :
    reviewCred env parsed.body.header creds.deposit ingest record = .ok cred ↔
      Eligible env parsed creds record cred := by
  simp only [reviewCred, eq_ok, ofBytes?_eq_some]
  constructor
  · rintro ⟨_, hcurrent, contributor, hcontributor, _, hbackend, key, hkey, signature, hsignature, _,
      hverify, envelope, henvelope, plaintext, hopen, hcred⟩
    exact ⟨hcurrent, ⟨contributor, hcontributor, hbackend, key, hkey, signature, hsignature, hverify⟩,
      ⟨ingest, envelope, plaintext, hingest, henvelope, hopen, hcred⟩⟩
  · rintro ⟨hcurrent, ⟨contributor, hcontributor, hbackend, key, hkey, signature, hsignature, hverify⟩,
      ⟨ingest', envelope, plaintext, hingest', henvelope, hopen, hcred⟩⟩
    obtain rfl : ingest' = ingest := Option.some.inj (hingest'.symm.trans hingest)
    exact ⟨(), hcurrent, contributor, hcontributor, (), hbackend, key, hkey, signature, hsignature, (),
      hverify, envelope, henvelope, plaintext, hopen, hcred⟩

def recordCred (env : DepositEnv) (parsed : ParsedBundle) (creds : CredBundle)
    (record : DepositRecord) : Option BackendCred :=
  creds.deposit.ingestPrivateKey.bind fun ingest =>
    (reviewCred env parsed.body.header creds.deposit ingest record).toOption

theorem recordCred_eq_some :
    recordCred env parsed creds record = some cred ↔ Eligible env parsed creds record cred := by
  unfold recordCred
  cases hingest : creds.deposit.ingestPrivateKey with
  | none =>
    simp only [Option.bind_none, reduceCtorEq, false_iff]
    rintro ⟨-, -, ingest, -, -, hsome, -⟩
    rw [hingest] at hsome
    cases hsome
  | some ingest =>
    rw [Option.bind_some, ← reviewCred_ok_iff hingest]
    cases reviewCred env parsed.body.header creds.deposit ingest record <;> simp [Except.toOption]

def candidateOf (env : DepositEnv) (parsed : ParsedBundle) (creds : CredBundle)
    (entry : DepositRecord × Nat) : Option Candidate :=
  (recordCred env parsed creds entry.1).map fun cred =>
    ⟨entry.2, entry.1.backendId, entry.1.contributorKeyId, entry.1.seq, cred⟩

theorem reviewLog_candidates {ingest : FixedBytes 32}
    (hingest : creds.deposit.ingestPrivateKey = some ingest) (index : Nat)
    (records : List DepositRecord) :
    (reviewLog env parsed.body.header creds ingest index records).2 =
      ((records.take (maxDeposits - index)).zipIdx index).filterMap (candidateOf env parsed creds) := by
  induction records generalizing index with
  | nil => simp [reviewLog]
  | cons record records ih =>
    have ih := ih (index + 1)
    by_cases hlimit : maxDeposits ≤ index
    · have hnow : maxDeposits - index = 0 := by omega
      have hnext : maxDeposits - (index + 1) = 0 := by omega
      rw [hnext] at ih
      simp only [reviewLog, if_pos hlimit, hnow, take_zero]
      exact ih
    · have htake : maxDeposits - index = (maxDeposits - (index + 1)) + 1 := by omega
      have hcred : recordCred env parsed creds record =
          (reviewCred env parsed.body.header creds.deposit ingest record).toOption := by
        rw [recordCred, hingest, Option.bind_some]
      rw [htake, take_succ_cons, zipIdx_cons, filterMap_cons]
      simp only [reviewLog, if_neg hlimit, candidateOf, hcred, reviewOne]
      cases reviewCred env parsed.body.header creds.deposit ingest record with
      | error | ok => simpa [Except.toOption] using ih

theorem reviewAuthorized_candidates :
    (reviewAuthorized env parsed creds).2 =
      (parsed.body.deposits.take maxDeposits).zipIdx.filterMap (candidateOf env parsed creds) := by
  unfold reviewAuthorized
  cases hingest : creds.deposit.ingestPrivateKey with
  | none =>
    symm
    rw [filterMap_eq_nil_iff]
    intro entry _
    simp [candidateOf, recordCred, hingest]
  | some ingest => exact reviewLog_candidates hingest 0 _

theorem zipIdx_increasing {α : Type} (xs : List α) (n : Nat) :
    (xs.zipIdx n).Pairwise fun a b => a.2 < b.2 := by
  rw [← pairwise_map, zipIdx_map_snd]
  exact pairwise_lt_range'

theorem candidates_inOrder (records : List DepositRecord) (n : Nat) :
    InOrder ((records.zipIdx n).filterMap (candidateOf env parsed creds)) := by
  rw [InOrder, pairwise_filterMap]
  refine (zipIdx_increasing records n).imp ?_
  rintro _ _ hlt _ hc _ hd
  simp only [candidateOf, Option.map_eq_some_iff] at hc hd
  obtain ⟨_, -, rfl⟩ := hc
  obtain ⟨_, -, rfl⟩ := hd
  exact hlt

theorem mem_candidates {records : List DepositRecord} {c : Candidate} :
    c ∈ records.zipIdx.filterMap (candidateOf env parsed creds) ↔
      ∃ record, records[c.index]? = some record ∧ Eligible env parsed creds record c.cred ∧
        c.backendId = record.backendId ∧ c.contributorKeyId = record.contributorKeyId ∧
        c.seq = record.seq := by
  simp only [mem_filterMap, candidateOf, Option.map_eq_some_iff, recordCred_eq_some]
  constructor
  · rintro ⟨⟨record, index⟩, hmem, cred, hcred, rfl⟩
    exact ⟨record, mk_mem_zipIdx_iff_getElem?.mp hmem, hcred, rfl, rfl, rfl⟩
  · rintro ⟨record, hrecord, hcred, hbackend, hcontributor, hseq⟩
    refine ⟨(record, c.index), mk_mem_zipIdx_iff_getElem?.mpr hrecord, c.cred, hcred, ?_⟩
    rw [← hbackend, ← hcontributor, ← hseq]

/-! ### The overlay -/

theorem applyAuthorizedDeposits_fst :
    (applyAuthorizedDeposits env parsed creds).1 =
      promotedPayload creds (selectEffective (reviewAuthorized env parsed creds).2) := by
  unfold applyAuthorizedDeposits promotedPayload
  obtain ⟨reviews, candidates⟩ := reviewAuthorized env parsed creds
  show ((selectEffective candidates).foldl _ (creds, reviews)).1 = (selectEffective candidates).foldl _ creds
  generalize selectEffective candidates = chosen
  induction chosen generalizing creds reviews with
  | nil => rfl
  | cons c chosen ih => exact ih _

theorem promotedPayload_deposit (creds : CredBundle) (chosen : List Candidate) :
    (promotedPayload creds chosen).deposit = creds.deposit := by
  induction chosen generalizing creds with
  | nil => rfl
  | cons c chosen ih => exact ih _

theorem promotedPayload_get? (entries : List (String × Candidate))
    (hkeys : ∀ e ∈ entries, e.2.backendId = e.1) (hdistinct : (entries.map Prod.fst).Nodup)
    (creds : CredBundle) (b : String) :
    (promotedPayload creds (entries.map Prod.snd)).backends.get? b =
      ((entries.lookup b).map Candidate.cred).or (creds.backends.get? b) := by
  induction entries generalizing creds with
  | nil => rfl
  | cons e entries ih =>
    obtain ⟨k, c⟩ := e
    rw [map_cons, nodup_cons] at hdistinct
    have hk : c.backendId = k := hkeys (k, c) (by simp)
    have ih := ih (fun e he => hkeys e (by simp [he])) hdistinct.2 (creds.set c.backendId c.cred)
    have hstep : promotedPayload creds (((k, c) :: entries).map Prod.snd) =
        promotedPayload (creds.set c.backendId c.cred) (entries.map Prod.snd) := rfl
    have hset : (creds.set c.backendId c.cred).backends.get? b =
        if b = k then some c.cred else creds.backends.get? b := by
      rw [← hk]
      exact get?_insert _ _ _ _
    rw [hstep, ih, hset, lookup_cons]
    by_cases hb : b = k
    · subst hb
      have hnone : entries.lookup b = none := lookup_eq_none_of_notMem hdistinct.1
      simp [hnone]
    · have hne : (b == k) = false := by simpa using hb
      rw [if_neg hb, hne]

theorem overlay_get? {candidates : List Candidate} (horder : InOrder candidates)
    (creds : CredBundle) (b : String) :
    (promotedPayload creds (selectEffective candidates)).backends.get? b =
      (((byBackend candidates).get? b).map Candidate.cred).or (creds.backends.get? b) := by
  refine promotedPayload_get? _ ?_ (nodup_keys _) creds b
  rintro ⟨_, _⟩ he
  exact (byBackend_greatest horder (get?_eq_some_iff.mpr he)).1.2

/-! ### Positions do not matter -/

def Candidate.unplaced (c : Candidate) : Candidate := { c with index := 0 }

theorem byPair_unplaced (candidates : List Candidate) :
    byPair (candidates.map unplaced) = (byPair candidates).map unplaced := by
  rw [byPair, keepMax_map, byPair, map_map, map_map]
  rfl

theorem selectEffective_unplaced (candidates : List Candidate) :
    selectEffective (candidates.map unplaced) =
      (selectEffective candidates).map unplaced := by
  rw [selectEffective, byBackend, byPair_unplaced, keepMax_map, selectEffective, byBackend,
    map_map, map_map]
  rfl

theorem promotedPayload_unplaced (creds : CredBundle) (chosen : List Candidate) :
    promotedPayload creds (chosen.map unplaced) = promotedPayload creds chosen := by
  rw [promotedPayload, foldl_map]
  rfl

theorem candidates_unplaced (records : List DepositRecord) (n : Nat) :
    ((records.zipIdx n).filterMap (candidateOf env parsed creds)).map unplaced =
      records.filterMap fun record => candidateOf env parsed creds (record, 0) := by
  induction records generalizing n with
  | nil => rfl
  | cons record records ih =>
    cases hcred : recordCred env parsed creds record with
    | none => simpa [candidateOf, hcred] using ih (n + 1)
    | some cred => simpa [candidateOf, hcred, unplaced] using ih (n + 1)

/-! ### Authorized deposits -/

/-- Ideal signatures and sealed boxes: what is accepted was made with the secret of the key,
and what opens was sealed under the same associated data. -/
structure IdealDeposits (env : DepositEnv) : Prop where
  verify_iff : ∀ key message signature, env.ed25519Verify key message signature = true ↔
    ∃ seed, env.ed25519Public seed = key ∧ env.ed25519Sign seed message = signature
  open_iff : ∀ ingest envelope aad plaintext,
    openEnvelope env.crypto ingest envelope aad = .ok plaintext ↔
      ∃ ephemeral nonce, sealWithParts env.crypto (env.crypto.x25519Public ingest)
        plaintext aad ephemeral nonce = .ok envelope

structure Authorized (env : DepositEnv) (header : Header) (material : DepositMaterial)
    (record : DepositRecord) (cred : BackendCred) : Prop where
  current : record.epoch = header.epoch
  signed : ∃ contributor seed, material.contributors.get? record.contributorKeyId = some contributor ∧
    record.backendId ∈ contributor.allowedBackendIds ∧
    publicKeyFromToken env contributor.publicKey = .ok (env.ed25519Public seed) ∧
    record.signature = (env.ed25519Sign seed (depositSigningBytes env.json record)).bytes
  sealedFor : ∃ ingest text ephemeral nonce envelope, material.ingestPrivateKey = some ingest ∧
    env.json.credFromSlice text = .ok cred ∧
    sealWithParts env.crypto (env.crypto.x25519Public ingest) text
      (depositAad env header record.backendId header.epoch record.seq record.contributorKeyId)
      ephemeral nonce = .ok envelope ∧
    envelopeFromParts record.sealedCred.encapsulatedKey record.sealedCred.nonce
      record.sealedCred.ciphertext = .ok envelope

theorem eligible_iff_authorized (ideal : IdealDeposits env) :
    Eligible env parsed creds record cred ↔
      Authorized env parsed.body.header creds.deposit record cred := by
  constructor
  · rintro ⟨hcurrent, ⟨contributor, hcontributor, hbackend, _, hkey, _, hsignature, hverify⟩,
      ⟨ingest, envelope, text, hingest, henvelope, hopen, hcred⟩⟩
    obtain ⟨seed, rfl, rfl⟩ := (ideal.verify_iff _ _ _).mp hverify
    rw [hcurrent] at hopen
    obtain ⟨ephemeral, nonce, hseal⟩ := (ideal.open_iff _ _ _ _).mp hopen
    exact ⟨hcurrent, ⟨contributor, seed, hcontributor, hbackend, hkey, hsignature⟩,
      ⟨ingest, text, ephemeral, nonce, envelope, hingest, hcred, hseal, henvelope⟩⟩
  · rintro ⟨hcurrent, ⟨contributor, seed, hcontributor, hbackend, hkey, hsignature⟩,
      ⟨ingest, text, ephemeral, nonce, envelope, hingest, hcred, hseal, henvelope⟩⟩
    have hverify := (ideal.verify_iff _ (depositSigningBytes env.json record) _).mpr ⟨seed, rfl, rfl⟩
    have hopen := (ideal.open_iff _ _ _ _).mpr ⟨ephemeral, nonce, hseal⟩
    rw [← hcurrent] at hopen
    exact ⟨hcurrent, ⟨contributor, hcontributor, hbackend, _, hkey, _, hsignature, hverify⟩,
      ⟨ingest, envelope, text, hingest, henvelope, hopen, hcred⟩⟩

theorem recordCred_iff_authorized (ideal : IdealDeposits env) :
    recordCred env parsed creds record = some cred ↔
      Authorized env parsed.body.header creds.deposit record cred :=
  recordCred_eq_some.trans (eligible_iff_authorized ideal)

/-! ### The whole overlay -/

def DepositRecord.rank (record : DepositRecord) (position : Nat) : Nat ×ₗ (String ×ₗ Nat) :=
  toLex (record.seq, toLex (record.contributorKeyId, position))

def Greatest (env : DepositEnv) (parsed : ParsedBundle) (creds : CredBundle) (b : String)
    (record : DepositRecord) (position : Nat) (cred : BackendCred) : Prop :=
  parsed.body.deposits[position]? = some record ∧ record.backendId = b ∧
    Authorized env parsed.body.header creds.deposit record cred ∧
    ∀ other i cred', parsed.body.deposits[i]? = some other → other.backendId = b →
      Authorized env parsed.body.header creds.deposit other cred' →
      other.rank i ≤ record.rank position

theorem applied_eq (hlog : parsed.body.deposits.length ≤ maxDeposits) :
    (applyAuthorizedDeposits env parsed creds).1 = promotedPayload creds
      (selectEffective (parsed.body.deposits.zipIdx.filterMap (candidateOf env parsed creds))) := by
  rw [applyAuthorizedDeposits_fst, reviewAuthorized_candidates, take_of_length_le hlog]

theorem applied_greatest (ideal : IdealDeposits env)
    (hlog : parsed.body.deposits.length ≤ maxDeposits) {b : String}
    (hmem : record ∈ parsed.body.deposits) (hbackend : record.backendId = b)
    (h : Authorized env parsed.body.header creds.deposit record cred) :
    ∃ best position bestCred, Greatest env parsed creds b best position bestCred ∧
      (applyAuthorizedDeposits env parsed creds).1.backends.get? b = some bestCred := by
  have horder : InOrder (parsed.body.deposits.zipIdx.filterMap (candidateOf env parsed creds)) :=
    candidates_inOrder _ 0
  rw [applied_eq hlog, overlay_get? horder]
  obtain ⟨i, hi⟩ := getElem?_of_mem hmem
  have hcandidate : (⟨i, record.backendId, record.contributorKeyId, record.seq, cred⟩ : Candidate) ∈
      parsed.body.deposits.zipIdx.filterMap (candidateOf env parsed creds) :=
    mem_candidates.mpr ⟨record, hi, (eligible_iff_authorized ideal).mpr h, rfl, rfl, rfl⟩
  cases hkept : (byBackend (parsed.body.deposits.zipIdx.filterMap
      (candidateOf env parsed creds))).get? b with
  | none => exact absurd hbackend (byBackend_eq_none horder hkept _ hcandidate)
  | some c =>
    obtain ⟨⟨hc, hcb⟩, hgreatest⟩ := byBackend_greatest horder hkept
    obtain ⟨best, hbest, heligible, hb, hcontributor, hseq⟩ := mem_candidates.mp hc
    refine ⟨best, c.index, c.cred, ⟨hbest, hb.symm.trans hcb,
      (eligible_iff_authorized ideal).mp heligible, ?_⟩, rfl⟩
    intro other j cred' hj hother hauthorized
    have hle := hgreatest ⟨j, other.backendId, other.contributorKeyId, other.seq, cred'⟩
      ⟨mem_candidates.mpr ⟨other, hj, (eligible_iff_authorized ideal).mpr hauthorized, rfl, rfl, rfl⟩,
        hother⟩
    rw [Candidate.rank, Candidate.rank, hcontributor, hseq] at hle
    exact hle

theorem applied_baseline (ideal : IdealDeposits env)
    (hlog : parsed.body.deposits.length ≤ maxDeposits) {b : String}
    (h : ∀ record ∈ parsed.body.deposits, record.backendId = b →
      ∀ cred, ¬ Authorized env parsed.body.header creds.deposit record cred) :
    (applyAuthorizedDeposits env parsed creds).1.backends.get? b = creds.backends.get? b := by
  have horder : InOrder (parsed.body.deposits.zipIdx.filterMap (candidateOf env parsed creds)) :=
    candidates_inOrder _ 0
  rw [applied_eq hlog, overlay_get? horder]
  cases hkept : (byBackend (parsed.body.deposits.zipIdx.filterMap
      (candidateOf env parsed creds))).get? b with
  | none => rfl
  | some c =>
    obtain ⟨⟨hc, hcb⟩, -⟩ := byBackend_greatest horder hkept
    obtain ⟨record, hrecord, heligible, hb, -, -⟩ := mem_candidates.mp hc
    exact absurd ((eligible_iff_authorized ideal).mp heligible)
      (h record (mem_of_getElem? hrecord) (hb.symm.trans hcb) c.cred)

def ParsedBundle.withDeposits (parsed : ParsedBundle) (deposits : List DepositRecord) : ParsedBundle :=
  ⟨{ parsed.body with deposits := deposits }⟩

theorem filterMap_candidates (records : List DepositRecord) :
    records.filterMap (fun record => candidateOf env parsed creds (record, 0)) =
      (records.filter fun record => (recordCred env parsed creds record).isSome).filterMap
        fun record => candidateOf env parsed creds (record, 0) := by
  rw [filterMap_filter]
  refine filterMap_congr fun record _ => ?_
  cases hcred : recordCred env parsed creds record with
  | none => simp [candidateOf, hcred]
  | some cred => simp

theorem applied_unplaced (hlog : parsed.body.deposits.length ≤ maxDeposits) :
    (applyAuthorizedDeposits env parsed creds).1 = promotedPayload creds
      (selectEffective (parsed.body.deposits.filterMap fun record =>
        candidateOf env parsed creds (record, 0))) := by
  rw [applied_eq hlog, ← promotedPayload_unplaced, ← selectEffective_unplaced, candidates_unplaced]

open scoped Classical in
theorem authorized_filter (ideal : IdealDeposits env) (records : List DepositRecord) :
    (records.filter fun record => ∃ cred, Authorized env parsed.body.header creds.deposit record cred) =
      records.filter fun record => (recordCred env parsed creds record).isSome := by
  refine filter_congr fun record _ => ?_
  rw [Bool.eq_iff_iff, decide_eq_true_eq, Option.isSome_iff_exists]
  exact exists_congr fun cred => (recordCred_iff_authorized ideal).symm

open scoped Classical in
theorem deposits_overlay_authorized (ideal : IdealDeposits env)
    (hlog : parsed.body.deposits.length ≤ maxDeposits) :
    let after := (applyAuthorizedDeposits env parsed creds).1
    let authorized := fun record : DepositRecord =>
      ∃ cred, Authorized env parsed.body.header creds.deposit record cred
    (∀ b, after.backends.get? b ≠ creds.backends.get? b →
      ∃ record ∈ parsed.body.deposits, record.backendId = b ∧ authorized record) ∧
    (∀ b, (∃ record ∈ parsed.body.deposits, record.backendId = b ∧ authorized record) →
      ∃ best position cred, Greatest env parsed creds b best position cred ∧
        after.backends.get? b = some cred) ∧
    (∀ deposits : List DepositRecord, deposits.length ≤ maxDeposits →
      deposits.filter authorized = parsed.body.deposits.filter authorized →
      (applyAuthorizedDeposits env (parsed.withDeposits deposits) creds).1 = after) ∧
    after.deposit = creds.deposit := by
  intro after authorized
  refine ⟨fun b hchanged => ?_, fun b => ?_, fun deposits hdeposits hsame => ?_, ?_⟩
  · by_contra hnone
    refine hchanged (applied_baseline ideal hlog fun record hmem hbackend cred hauthorized => ?_)
    exact hnone ⟨record, hmem, hbackend, cred, hauthorized⟩
  · rintro ⟨record, hmem, hbackend, cred, hauthorized⟩
    exact applied_greatest ideal hlog hmem hbackend hauthorized
  · have hfilter := (authorized_filter ideal deposits).symm.trans
      (hsame.trans (authorized_filter ideal parsed.body.deposits))
    show (applyAuthorizedDeposits env (parsed.withDeposits deposits) creds).1 =
      (applyAuthorizedDeposits env parsed creds).1
    rw [applied_unplaced hdeposits, applied_unplaced hlog, filterMap_candidates,
      filterMap_candidates parsed.body.deposits, ← hfilter]
    rfl
  · rw [show after = _ from applied_eq hlog]
    exact promotedPayload_deposit _ _

/-! ### A log with one authorized record -/

theorem textDeposits_ideal : IdealDeposits textDeposits where
  verify_iff key message signature := by
    constructor
    · intro h
      exact ⟨key, rfl, ext (of_decide_eq_true h).symm⟩
    · rintro ⟨_, rfl, rfl⟩
      exact decide_eq_true rfl
  open_iff ingest envelope aad plaintext := by
    have hopen : openEnvelope textDeposits.crypto ingest envelope aad =
        orErr (boxOpen (fill 32 3) envelope.nonce aad envelope.ciphertext) .openFailed := rfl
    have hseal (ephemeral nonce) : sealWithParts textDeposits.crypto
        (textDeposits.crypto.x25519Public ingest) plaintext aad ephemeral nonce =
        .ok ⟨ephemeral, nonce, textOf (fill 32 3, nonce, aad, plaintext)⟩ := rfl
    rw [hopen, orErr_eq_ok, boxOpen_eq_some]
    constructor
    · intro h
      refine ⟨envelope.encapsulatedKey, envelope.nonce, ?_⟩
      rw [hseal, ← h]
    · rintro ⟨ephemeral, nonce, h⟩
      cases h
      rfl

def ciHeader : Header := ⟨formatVersion, .v1, fill 16 0, 0, 1⟩

def ciMaterial : DepositMaterial where
  ingestPrivateKey := some (fill 32 9)
  contributors := empty.insert "ci" ⟨"the key: thirty-two characters..", ["vault"]⟩

def ciBaseline : CredBundle := ⟨1, empty.insert "db" (.vaultToken "old" none), ciMaterial⟩

noncomputable def ciDeposit : DepositRecord where
  backendId := "vault"
  epoch := 1
  seq := 1
  contributorKeyId := "ci"
  sealedCred := ⟨List.replicate 32 4, List.replicate 12 5,
    textOf (fill 32 3, fill 12 5,
      depositAad textDeposits ciHeader "vault" 1 1 "ci", textOf (BackendCred.vaultToken "new" none))⟩
  signature := List.replicate 64 7

noncomputable def ciParsed : ParsedBundle :=
  ⟨⟨jsonTexts.headerToVec ciHeader, ciHeader, [], ⟨[], []⟩,
    [{ ciDeposit with backendId := "db" }, ciDeposit]⟩⟩

theorem ciDeposit_authorized :
    Authorized textDeposits ciHeader ciMaterial ciDeposit (.vaultToken "new" none) where
  current := rfl
  signed := ⟨⟨"the key: thirty-two characters..", ["vault"]⟩, fill 32 7, rfl, by decide,
    by decide, rfl⟩
  sealedFor := ⟨fill 32 9, textOf (BackendCred.vaultToken "new" none), fill 32 4,
    fill 12 5, _, rfl, readText_textOf _, rfl, rfl⟩

theorem ci_deposit_effective :
    IdealDeposits textDeposits ∧ ciParsed.body.deposits.length ≤ maxDeposits ∧
      ∃ best position cred, Greatest textDeposits ciParsed ciBaseline "vault" best position cred ∧
        (applyAuthorizedDeposits textDeposits ciParsed ciBaseline).1.backends.get? "vault" =
          some cred := by
  have hlog : ciParsed.body.deposits.length ≤ maxDeposits := by
    decide
  refine ⟨textDeposits_ideal, hlog, ?_⟩
  exact (deposits_overlay_authorized textDeposits_ideal hlog).2.1 "vault"
    ⟨ciDeposit, by simp [ciParsed], rfl, _, ciDeposit_authorized⟩

end Basil.Bundle
