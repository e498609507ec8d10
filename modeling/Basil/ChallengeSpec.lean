import Basil.Challenge

/-!
# What one call on the challenge table can do

Inversion lemmas for `purgeExpired`, `issue` and `consume`.
-/

namespace Basil.Challenge.ChallengeTable

variable {t : ChallengeTable} {suffix : Suffix} {record : Record} {now : Int}

/-! ### Removal -/

@[simp] theorem removeRecord_instanceId (t : ChallengeTable) (suffix : Suffix) :
    (t.removeRecord suffix).instanceId = t.instanceId := by
  unfold removeRecord
  split <;> rfl

@[simp] theorem removeRecord_config (t : ChallengeTable) (suffix : Suffix) :
    (t.removeRecord suffix).config = t.config := by
  unfold removeRecord
  split <;> rfl

theorem removeRecord_lookup (t : ChallengeTable) (suffix other : Suffix) :
    (t.removeRecord suffix).records.lookup other =
      if other = suffix then none else t.records.lookup other := by
  unfold removeRecord
  cases h : t.records.lookup suffix with
  | none =>
    by_cases he : other = suffix
    · subst he; simp [h]
    · simp [he]
  | some r => simpa using Table.lookup_erase_eq t.records suffix other

theorem purgeFront_cases (t : ChallengeTable) (now : Int) :
    t.expiryQueue = [] ∧ t.purgeFront now = t ∨
    ∃ suffix expiry rest, t.expiryQueue = (suffix, expiry) :: rest ∧
      ((∀ record, t.records.lookup suffix = some record → record.expiresAtUnix ≠ expiry) ∧
          t.purgeFront now = { t with expiryQueue := rest } ∨
        ∃ record, t.records.lookup suffix = some record ∧ record.expiresAtUnix = expiry ∧
          (expiry < now ∧ t.purgeFront now = { t.removeRecord suffix with expiryQueue := rest } ∨
            now ≤ expiry ∧
              t.purgeFront now = { t with expiryQueue := rest ++ [(suffix, expiry)] })) := by
  unfold purgeFront
  split
  · next hq => exact .inl ⟨hq, rfl⟩
  · next suffix expiry rest hq =>
    refine .inr ⟨suffix, expiry, rest, hq, ?_⟩
    cases hrecord : t.records.lookup suffix with
    | none => exact .inl ⟨nofun, by simp [hrecord]⟩
    | some record =>
      by_cases hcurrent : record.expiresAtUnix = expiry
      · subst hcurrent
        refine .inr ⟨record, rfl, rfl, ?_⟩
        by_cases hexpired : record.expiresAtUnix < now
        · exact .inl ⟨hexpired, by simp [hrecord, hexpired, removeRecord]⟩
        · exact .inr ⟨Int.not_lt.mp hexpired, by simp [hrecord, hexpired]⟩
      · refine .inl ⟨?_, by simp [hrecord, hcurrent]⟩
        intro other hother
        cases hother
        exact hcurrent

theorem purgeExpired_induct {P : ChallengeTable → Prop} {now : Int}
    (hfront : ∀ t, P t → P (t.purgeFront now)) {t : ChallengeTable} (h : P t) :
    P (t.purgeExpired now) := by
  unfold purgeExpired
  generalize min t.expiryQueue.length expiryCleanupLimit = rounds
  induction rounds generalizing t with
  | zero => exact h
  | succ n ih => exact ih (hfront t h)

structure Shrinks (t s : ChallengeTable) : Prop where
  instanceId_eq : s.instanceId = t.instanceId
  config_eq : s.config = t.config
  records_sub : ∀ suffix record, s.records.lookup suffix = some record →
    t.records.lookup suffix = some record

namespace Shrinks

theorem refl (t : ChallengeTable) : Shrinks t t := ⟨rfl, rfl, fun _ _ h => h⟩

theorem trans {t s u : ChallengeTable} (hts : Shrinks t s) (hsu : Shrinks s u) : Shrinks t u :=
  ⟨hsu.instanceId_eq.trans hts.instanceId_eq, hsu.config_eq.trans hts.config_eq,
    fun k r h => hts.records_sub k r (hsu.records_sub k r h)⟩

theorem removeRecord (t : ChallengeTable) (suffix : Suffix) :
    Shrinks t (t.removeRecord suffix) := by
  refine ⟨by simp, by simp, ?_⟩
  intro k r h
  rw [removeRecord_lookup] at h
  split at h
  · cases h
  · exact h

theorem requeue {s : ChallengeTable} (h : Shrinks t s) (queue : List (Suffix × Int)) :
    Shrinks t { s with expiryQueue := queue } := ⟨h.instanceId_eq, h.config_eq, h.records_sub⟩

theorem purgeFront (t : ChallengeTable) (now : Int) : Shrinks t (t.purgeFront now) := by
  rcases purgeFront_cases t now with ⟨-, hfront⟩ | ⟨suffix, _, rest, -, ⟨-, hfront⟩ |
    ⟨_, -, -, ⟨-, hfront⟩ | ⟨-, hfront⟩⟩⟩ <;> rw [hfront]
  · exact refl t
  · exact (refl t).requeue rest
  · exact (removeRecord t suffix).requeue rest
  · exact (refl t).requeue _

theorem purgeRounds (t : ChallengeTable) (now : Int) (n : Nat) :
    Shrinks t (t.purgeRounds now n) := by
  induction n generalizing t with
  | zero => exact refl t
  | succ n ih => exact (purgeFront t now).trans (ih _)

theorem purgeExpired (t : ChallengeTable) (now : Int) : Shrinks t (t.purgeExpired now) :=
  purgeRounds t now _

end Shrinks

/-! ### Issuance -/

theorem drawSuffix_some {records : Table Suffix Record} {attempts : Nat}
    {draws : List (Option Suffix)} (h : (drawSuffix records attempts draws).1 = some suffix) :
    records.lookup suffix = none ∧ suffix ∈ (drawSuffix records attempts draws).2 := by
  induction attempts generalizing draws with
  | zero => simp [drawSuffix] at h
  | succ attempts ih =>
    match draws with
    | [] | none :: _ => simp [drawSuffix] at h
    | some s :: draws =>
      cases hs : records.lookup s with
      | none =>
        simp only [drawSuffix, hs, Option.some.injEq] at h
        subst h
        exact ⟨hs, by simp [drawSuffix, hs]⟩
      | some r =>
        simp only [drawSuffix, hs] at h
        obtain ⟨hfree, hmem⟩ := ih h
        exact ⟨hfree, by simp [drawSuffix, hs, hmem]⟩

theorem unusedSuffix_some {records : Table Suffix Record} {draws : List (Option Suffix)}
    {drawn : List Suffix} (h : unusedSuffix records draws = (some suffix, drawn)) :
    records.lookup suffix = none ∧ suffix ∈ drawn := by
  have hs : (drawSuffix records 4 draws).1 = some suffix := by
    rw [← unusedSuffix, h]
  have hdrawn := drawSuffix_some hs
  rw [← unusedSuffix, h] at hdrawn
  exact hdrawn

structure Passed (t : ChallengeTable) (jkt : Jkt) (source : SourcePartition) (now : Int)
    (env : IssueEnv) (plan : IssuePlan) : Prop where
  instance_drawn : t.instanceId.or env.instanceDraw = some plan.instanceId
  has_room : t.records.size < t.config.globalCapacity
  outstanding_eq : plan.outstanding = (t.outstandingPerJkt.lookup jkt).getD 0
  jkt_has_room : plan.outstanding < t.config.perJktCapacity
  global_taken : t.globalBucket.tryTake t.config.globalRate now = some plan.globalBucket
  source_planned : planPartitionToken t.sourceBuckets source t.config.perSourceRate
    t.config.trackedPartitions now env.sourceOrder = some plan.sourceDebit
  jkt_planned : planPartitionToken t.jktBuckets jkt t.config.perJktRate
    t.config.trackedPartitions now env.jktOrder = some plan.jktDebit

theorem planIssue_eq_ok {jkt : Jkt} {source : SourcePartition} {env : IssueEnv}
    {plan : IssuePlan} :
    t.planIssue jkt source now env = .ok plan ↔ Passed t jkt source now env plan := by
  simp only [planIssue, eq_ok]
  constructor
  · rintro ⟨_, hid, -, hroom, -, hjkt, _, hglobal, source, hsource, _, hjkts, rfl⟩
    exact ⟨hid, hroom, rfl, hjkt, hglobal, hsource, hjkts⟩
  · intro h
    have hroom := h.jkt_has_room
    have houtstanding := h.outstanding_eq
    rw [houtstanding] at hroom
    refine ⟨_, h.instance_drawn, (), h.has_room, (), hroom, _, h.global_taken, _, h.source_planned, _,
      h.jkt_planned, ?_⟩
    rw [← houtstanding]

theorem issue_cases (t : ChallengeTable) (jkt : Jkt) (source : SourcePartition) (generation : Nat)
    (now : Int) (env : IssueEnv) :
    (∃ decline drawn, t.issue jkt source generation now env =
        (t.purgeExpired now, ⟨.error decline, drawn⟩)) ∨
    (∃ plan suffix drawn expiry, t.issue jkt source generation now env =
        ((t.purgeExpired now).commitIssue plan suffix ⟨jkt, generation, expiry⟩,
          ⟨.ok ⟨plan.instanceId.bytes ++ suffix.bytes, expiry⟩, drawn⟩) ∧
      (t.purgeExpired now).planIssue jkt source now env = .ok plan ∧
      (t.purgeExpired now).records.lookup suffix = none ∧ suffix ∈ drawn ∧
      expiry = satAddI64 now t.config.ttlSecs) := by
  have hconfig := (Shrinks.purgeExpired t now).config_eq
  unfold issue
  cases hplan : (t.purgeExpired now).planIssue jkt source now env with
  | error decline => exact .inl ⟨decline, [], by simp [hplan]⟩
  | ok plan =>
    rcases hdraw : unusedSuffix (t.purgeExpired now).records env.suffixDraws with ⟨found, drawn⟩
    cases found with
    | none => exact .inl ⟨.entropyUnavailable, drawn, by simp [hplan, hdraw]⟩
    | some suffix =>
      obtain ⟨hfree, hdrawn⟩ := unusedSuffix_some hdraw
      cases hreserve : env.reserveOk with
      | false => exact .inl ⟨.capacityExhausted, drawn, by simp [hplan, hdraw]⟩
      | true =>
        exact .inr ⟨plan, suffix, drawn, _, by simp [hplan, hdraw, hconfig],
          rfl, hfree, hdrawn, rfl⟩

/-! ### Consumption -/

theorem splitChallenge_eq_some {challenge idPart : Bytes} :
    splitChallenge challenge = some (idPart, suffix) ↔
      idPart.length = instanceIdLen ∧ challenge = idPart ++ suffix.bytes := by
  unfold splitChallenge
  constructor
  · intro h
    split at h
    · next hlen =>
      simp only [Option.map_eq_some_iff, Prod.mk.injEq] at h
      obtain ⟨_, hs, rfl, rfl⟩ := h
      rw [FixedBytes.ofBytes?_eq_some] at hs
      refine ⟨by simp; omega, ?_⟩
      rw [← hs, List.take_append_drop]
    · cases h
  · rintro ⟨hlen, rfl⟩
    have hdrop : (idPart ++ suffix.bytes).drop instanceIdLen = suffix.bytes := by
      rw [← hlen, List.drop_left]
    have htake : (idPart ++ suffix.bytes).take instanceIdLen = idPart := by
      rw [← hlen, List.take_left]
    simp [hdrop, htake, hlen]

theorem consume_cases (t : ChallengeTable) (challenge : Bytes) (jkt : Jkt) (generation : Nat)
    (now : Int) :
    (∃ s denied, t.consume challenge jkt generation now = (s, .error denied) ∧ Shrinks t s) ∨
    (∃ id suffix expiry, t.consume challenge jkt generation now = (t.removeRecord suffix, .ok ()) ∧
      t.instanceId = some id ∧ challenge = id.bytes ++ suffix.bytes ∧
      t.records.lookup suffix = some ⟨jkt, generation, expiry⟩ ∧ now ≤ expiry) := by
  unfold consume
  rcases hsplit : splitChallenge challenge with _ | ⟨_, suffix⟩
  · exact .inl ⟨t, .unknown, rfl, Shrinks.refl t⟩
  · obtain ⟨-, hchallenge⟩ := splitChallenge_eq_some.mp hsplit
    dsimp only
    split
    · next hid =>
      rw [Option.map_eq_some_iff] at hid
      obtain ⟨id, hid, rfl⟩ := hid
      cases hrecord : t.records.lookup suffix with
      | none => exact .inl ⟨t, .unknown, rfl, Shrinks.refl t⟩
      | some record =>
        obtain ⟨_, _, expiry⟩ := record
        dsimp only
        split
        · exact .inl ⟨_, .expired, rfl, Shrinks.removeRecord t suffix⟩
        · split
          · exact .inl ⟨t, .jktMismatch, rfl, Shrinks.refl t⟩
          · split
            · exact .inl ⟨_, .generationMismatch, rfl, Shrinks.removeRecord t suffix⟩
            · next hlive hjkt hgeneration =>
              rw [not_not] at hjkt hgeneration
              subst hjkt hgeneration
              exact .inr ⟨id, suffix, expiry, rfl, hid, hchallenge, hrecord, Int.not_lt.mp hlive⟩
    · exact .inl ⟨t, .foreignInstance, rfl, Shrinks.refl t⟩

theorem consume_touches (t : ChallengeTable) (challenge : Bytes) (jkt : Jkt) (generation : Nat)
    (now : Int) :
    (t.consume challenge jkt generation now).1 = t ∨
    ∃ id suffix, t.instanceId = some id ∧ challenge = id.bytes ++ suffix.bytes ∧
      (t.consume challenge jkt generation now).1 = t.removeRecord suffix := by
  unfold consume
  rcases hsplit : splitChallenge challenge with _ | ⟨_, suffix⟩
  · exact .inl rfl
  · obtain ⟨-, hchallenge⟩ := splitChallenge_eq_some.mp hsplit
    dsimp only
    split
    · next hid =>
      rw [Option.map_eq_some_iff] at hid
      obtain ⟨id, hid, rfl⟩ := hid
      have hremoved : ∀ s, s = t.removeRecord suffix →
          s = t ∨ ∃ id suffix, t.instanceId = some id ∧ challenge = id.bytes ++ suffix.bytes ∧
            s = t.removeRecord suffix :=
        fun s hs => .inr ⟨id, suffix, hid, hchallenge, hs⟩
      split
      · exact .inl rfl
      · split
        · exact hremoved _ rfl
        · split
          · exact .inl rfl
          · split <;> exact hremoved _ rfl
    · exact .inl rfl

theorem consume_live {id : InstanceId} (hid : t.instanceId = some id)
    (hrecord : t.records.lookup suffix = some record) (hlive : now ≤ record.expiresAtUnix)
    (jkt : Jkt) (generation : Nat) :
    t.consume (id.bytes ++ suffix.bytes) jkt generation now =
      if record.jkt ≠ jkt then (t, .error .jktMismatch)
      else if record.generation ≠ generation then
        (t.removeRecord suffix, .error .generationMismatch)
      else (t.removeRecord suffix, .ok ()) := by
  have hsplit : splitChallenge (id.bytes ++ suffix.bytes) = some (id.bytes, suffix) :=
    splitChallenge_eq_some.mpr ⟨id.length_eq, rfl⟩
  have hlate : ¬ record.expiresAtUnix < now := Int.not_lt.mpr hlive
  simp [consume, hsplit, hid, hrecord, if_neg hlate]

end Basil.Challenge.ChallengeTable
