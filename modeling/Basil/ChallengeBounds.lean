import Basil.ChallengeRun

/-!
# Counters, queue and buckets of the challenge table

`Sound` ties the counters, the queue and the bucket maps to the records and the configuration.
-/

namespace Basil.Challenge

open FixedBytes Table List TokenBucket Trace

/-! ### Token buckets -/

def TokenBucket.Within (config : TokenBucketConfig) (b : TokenBucket) : Prop :=
  b.tokens ≤ config.burst

theorem TokenBucket.within_new (config : TokenBucketConfig) (now : Int) :
    (new config now).Within config :=
  Nat.le_refl config.burst

variable {config : TokenBucketConfig} {b : TokenBucket} {now : Int} {jkt : Jkt}
  {source : SourcePartition} {env : IssueEnv}

theorem TokenBucket.Within.refill (h : b.Within config) (now : Int) :
    (b.refill config now).Within config := by
  unfold TokenBucket.refill
  split
  · exact h
  · dsimp only
    split
    · exact h
    · exact Nat.min_le_right _ _

theorem TokenBucket.Within.tryTake {taken : TokenBucket} (h : b.Within config)
    (htake : b.tryTake config now = some taken) : taken.Within config := by
  have hrefilled := h.refill now
  simp only [TokenBucket.tryTake] at htake
  split at htake
  · cases htake
  · cases htake
    exact (Nat.sub_le _ 1).trans hrefilled

def TokenBucket.elapsed (b : TokenBucket) (now : Int) : Nat :=
  min (now - b.lastRefillUnix).toNat u32Max

theorem TokenBucket.elapsedU32_satSub {last : Int} (h : last ≤ now) :
    elapsedU32 (satSubI64 now last) = min (now - last).toNat u32Max := by
  simp only [elapsedU32, satSubI64, clampI64, i64Min, i64Max, u32Max]
  omega

theorem TokenBucket.refill_eq (hburst : config.burst ≤ u32Max) (h : b.Within config) (now : Int) :
    b.refill config now =
      ⟨min (b.tokens + b.elapsed now * config.refillPerSec) config.burst, now⟩ := by
  have hwithin : b.tokens ≤ config.burst := h
  have hsame (hzero : (now - b.lastRefillUnix).toNat = 0) :
      min (b.tokens + b.elapsed now * config.refillPerSec) config.burst = b.tokens := by
    rw [elapsed, hzero, Nat.zero_min, Nat.zero_mul, Nat.add_zero, min_eq_left hwithin]
  unfold refill
  by_cases hback : now < b.lastRefillUnix
  · rw [if_pos hback, hsame (by omega)]
  · have hseconds := elapsedU32_satSub (Int.not_lt.mp hback)
    rw [if_neg hback]
    dsimp only
    by_cases hzero : satSubI64 now b.lastRefillUnix = 0
    · have hnow : now = b.lastRefillUnix := by
        simp only [satSubI64, clampI64, i64Min, i64Max] at hzero
        omega
      rw [if_pos hzero, hsame (by omega), hnow]
    · rw [if_neg hzero, hseconds, ← elapsed, satAddU32, satMulU32]
      generalize b.elapsed now * config.refillPerSec = gain
      have hcapped : min (min (b.tokens + min gain u32Max) u32Max) config.burst =
          min (b.tokens + gain) config.burst := by omega
      rw [hcapped]

theorem TokenBucket.tryTake_eq_some {taken : TokenBucket} (hburst : config.burst ≤ u32Max)
    (h : b.Within config) :
    b.tryTake config now = some taken ↔ taken.lastRefillUnix = now ∧
      taken.tokens + 1 = min (b.tokens + b.elapsed now * config.refillPerSec) config.burst := by
  rw [tryTake, refill_eq hburst h]
  dsimp only
  obtain ⟨tokens, _⟩ := taken
  split
  · next hzero => simp [hzero]
  · simp only [Option.some.injEq, mk.injEq]
    omega
/-! ### Bucket maps -/

section Partitions
variable {κ : Type} [DecidableEq κ]

structure Partitions (config : TokenBucketConfig) (tracked : Nat) (buckets : Table κ TokenBucket) :
    Prop where
  size_le : buckets.size ≤ tracked
  within : ∀ key bucket, buckets.lookup key = some bucket → bucket.Within config

variable {config : TokenBucketConfig} {tracked : Nat} {buckets : Table κ TokenBucket}

variable {key : κ}

theorem findIdle_lookup {now : Int} {order : List κ}
    (h : findIdle buckets config now order = some key) :
    ∃ bucket, buckets.lookup key = some bucket := by
  have hidle := find?_some h
  exact Option.isSome_iff_exists.mp (Option.isSome_of_any hidle)

theorem Partitions.insert {rest : Table κ TokenBucket} {bucket : TokenBucket}
    (h : Partitions config tracked rest) (hroom : size (rest.erase key) < tracked)
    (hbucket : bucket.Within config) : Partitions config tracked (rest.insert key bucket) := by
  constructor
  · rw [size_insert]
    exact hroom
  · intro other b hb
    rw [lookup_insert_eq] at hb
    split at hb
    · cases hb
      exact hbucket
    · exact h.within other b hb

theorem Partitions.erase (h : Partitions config tracked buckets) (key : κ) :
    Partitions config tracked (buckets.erase key) := by
  refine ⟨(size_erase_le buckets key).trans h.size_le, ?_⟩
  intro other b hb
  rw [lookup_erase_eq] at hb
  split at hb
  · cases hb
  · exact h.within other b hb

theorem Partitions.commit {now : Int} {order : List κ} {debit : PartitionDebit κ}
    (h : Partitions config tracked buckets)
    (hplan : planPartitionToken buckets key config tracked now order = some debit) :
    Partitions config tracked (debit.commit buckets) := by
  unfold planPartitionToken at hplan
  cases hbucket : buckets.lookup key with
  | some bucket =>
    simp only [hbucket, Option.map_eq_some_iff] at hplan
    obtain ⟨taken, htake, rfl⟩ := hplan
    refine h.insert ?_ ((h.within key bucket hbucket).tryTake htake)
    have hsize := size_eq_erase hbucket
    have hle := h.size_le
    omega
  | none =>
    have htaken {taken : TokenBucket}
        (htake : (new config now).tryTake config now = some taken) :=
      (within_new config now).tryTake htake
    simp only [hbucket] at hplan
    by_cases hfull : tracked ≤ buckets.size
    · -- the map is full, so the plan names a bucket to evict
      cases hidle : findIdle buckets config now order with
      | none => simp [hfull, hidle] at hplan
      | some evict =>
        simp only [hfull, hidle, if_true, reduceCtorEq, and_false, if_false,
          Option.map_eq_some_iff] at hplan
        obtain ⟨taken, htake, rfl⟩ := hplan
        obtain ⟨_, hevict⟩ := findIdle_lookup hidle
        refine (h.erase evict).insert ?_ (htaken htake)
        have hsize := size_eq_erase hevict
        have hsmaller := size_erase_le (buckets.erase evict) key
        have hle := h.size_le
        omega
    · simp only [hfull, if_false, false_and, Option.map_eq_some_iff] at hplan
      obtain ⟨taken, htake, rfl⟩ := hplan
      refine h.insert ?_ (htaken htake)
      rw [erase_of_lookup_none hbucket]
      omega

end Partitions

/-! ### The invariant of the table -/

open ChallengeTable

structure ChallengeTable.Sound (t : ChallengeTable) : Prop where
  counted : Tallies Record.jkt t.outstandingPerJkt t.records
  jkt_capacity : ∀ jkt, t.records.countBy Record.jkt jkt ≤ t.config.perJktCapacity
  capacity : t.outstanding ≤ t.config.globalCapacity
  queued : ∀ suffix record, t.records.lookup suffix = some record →
    (suffix, record.expiresAtUnix) ∈ t.expiryQueue
  sources : Partitions t.config.perSourceRate t.config.trackedPartitions t.sourceBuckets
  jkts : Partitions t.config.perJktRate t.config.trackedPartitions t.jktBuckets
  global : t.globalBucket.Within t.config.globalRate

variable {t : ChallengeTable} {now : Int}

theorem sound_init (config : Config) (entropy : Option InstanceId) :
    (withConfig config entropy).Sound where
  counted := tallies_empty Record.jkt
  jkt_capacity := fun _ => Nat.zero_le _
  capacity := Nat.zero_le _
  queued := by simp [withConfig]
  sources := ⟨Nat.zero_le _, by simp [withConfig]⟩
  jkts := ⟨Nat.zero_le _, by simp [withConfig]⟩
  global := within_new _ 0

theorem ChallengeTable.Sound.requeue (h : t.Sound) {queue : List (Suffix × Int)}
    (hqueue : ∀ suffix record, t.records.lookup suffix = some record →
      (suffix, record.expiresAtUnix) ∈ queue) : Sound { t with expiryQueue := queue } :=
  { h with queued := hqueue }

theorem ChallengeTable.Sound.removeRecord (h : t.Sound) (suffix : Suffix) :
    (t.removeRecord suffix).Sound := by
  cases hrecord : t.records.lookup suffix with
  | none =>
    simp only [ChallengeTable.removeRecord, hrecord]
    exact h
  | some record =>
    simp only [ChallengeTable.removeRecord, hrecord]
    have hfewer (jkt : Jkt) := countBy_eq_erase Record.jkt hrecord jkt
    refine { h with
      counted := h.counted.erase hrecord, jkt_capacity := ?_, capacity := ?_, queued := ?_ }
    · intro jkt
      have hle := h.jkt_capacity jkt
      have hcount := hfewer jkt
      dsimp only
      omega
    · exact (size_erase_le t.records suffix).trans h.capacity
    · intro other r hr
      rw [lookup_erase_eq] at hr
      split at hr
      · cases hr
      · exact h.queued other r hr

theorem ChallengeTable.Sound.purgeFront (h : t.Sound) (now : Int) : (t.purgeFront now).Sound := by
  rcases purgeFront_cases t now with ⟨-, hfront⟩ | ⟨suffix, expiry, rest, hq, hcases⟩
  · rw [hfront]
    exact h
  · -- an entry of a record that is not the front's stands further back
    have hback {other : Suffix} {r : Record} (hr : t.records.lookup other = some r)
        (hne : other = suffix → r.expiresAtUnix ≠ expiry) : (other, r.expiresAtUnix) ∈ rest := by
      have hmem := h.queued other r hr
      rw [hq, mem_cons] at hmem
      rcases hmem with hfront | hrest
      · cases hfront
        exact absurd rfl (hne rfl)
      · exact hrest
    rcases hcases with ⟨hstale, hfront⟩ | ⟨record, _, -, ⟨-, hfront⟩ | ⟨-, hfront⟩⟩ <;>
      rw [hfront]
    · refine h.requeue fun other r hr => hback hr ?_
      rintro rfl
      exact hstale r hr
    · refine (h.removeRecord suffix).requeue fun other r hr => ?_
      rw [removeRecord_lookup] at hr
      split at hr
      · cases hr
      · next hne => exact hback hr (fun heq => absurd heq hne)
    · refine h.requeue fun other r hr => ?_
      have hmem := h.queued other r hr
      rw [hq, mem_cons] at hmem
      rw [mem_append, mem_singleton]
      exact hmem.symm

theorem ChallengeTable.Sound.purgeExpired (h : t.Sound) (now : Int) : (t.purgeExpired now).Sound :=
  purgeExpired_induct (fun _ hs => hs.purgeFront now) h

theorem ChallengeTable.Sound.commitIssue {plan : IssuePlan} {suffix : Suffix} (h : t.Sound)
    (hplan : Passed t jkt source now env plan) (hfree : t.records.lookup suffix = none)
    (generation : Nat) (expiry : Int) :
    (t.commitIssue plan suffix ⟨jkt, generation, expiry⟩).Sound := by
  have hsame := erase_of_lookup_none hfree
  have hcount := h.counted.count_eq jkt
  have hroom := hplan.jkt_has_room
  rw [hplan.outstanding_eq, hcount] at hroom
  constructor
  · have hcounted := h.counted.insert (v := ⟨jkt, generation, expiry⟩) hfree
    rw [increment, ← hplan.outstanding_eq] at hcounted
    exact hcounted
  · intro other
    have hle := h.jkt_capacity other
    simp only [ChallengeTable.commitIssue, countBy_insert, hsame]
    split
    · next heq =>
      subst heq
      omega
    · exact hle
  · simp only [outstanding, ChallengeTable.commitIssue, size_insert, hsame]
    exact hplan.has_room
  · intro other r hr
    simp only [ChallengeTable.commitIssue, lookup_insert_eq] at hr
    simp only [ChallengeTable.commitIssue, mem_append, mem_singleton]
    split at hr
    · next heq =>
      cases hr
      subst heq
      exact .inr rfl
    · exact .inl (h.queued other r hr)
  · exact h.sources.commit hplan.source_planned
  · exact h.jkts.commit hplan.jkt_planned
  · exact h.global.tryTake hplan.global_taken

theorem ChallengeTable.Sound.consume (h : t.Sound) (challenge : Bytes) (jkt : Jkt)
    (generation : Nat) (now : Int) : (t.consume challenge jkt generation now).1.Sound := by
  rcases consume_touches t challenge jkt generation now with hkept | ⟨-, suffix, -, -, hremoved⟩
  · rw [hkept]
    exact h
  · rw [hremoved]
    exact h.removeRecord suffix

theorem sound_step (t : ChallengeTable) (call : Call) (h : t.Sound) : (step t call).1.Sound := by
  cases call with
  | issue jkt source generation now env =>
    have hpurged := h.purgeExpired now
    rcases issue_cases t jkt source generation now env with
      ⟨_, drawn, hissue⟩ | ⟨_, _, drawn, expiry, hissue, hplan, hfree, -, -⟩
    · simp only [step, hissue]
      exact hpurged
    · simp only [step, hissue]
      exact hpurged.commitIssue (planIssue_eq_ok.mp hplan) hfree generation expiry
  | consume challenge jkt generation now => exact h.consume challenge jkt generation now

theorem step_config (t : ChallengeTable) (call : Call) : (step t call).1.config = t.config := by
  cases call with
  | issue jkt source generation now env =>
    have hpurged := (Shrinks.purgeExpired t now).config_eq
    rcases issue_cases t jkt source generation now env with
      ⟨_, drawn, hissue⟩ | ⟨_, suffix, drawn, _, hissue, -, -, -, -⟩
    · simpa only [step, hissue] using hpurged
    · simpa only [step, hissue, ChallengeTable.commitIssue] using hpurged
  | consume challenge jkt generation now =>
    rcases consume_touches t challenge jkt generation now with hkept | ⟨-, suffix, -, -, hremoved⟩
    · simp [step, hkept]
    · simp [step, hremoved]

theorem challenge_table_bounded (config : Config) (entropy : Option InstanceId)
    (calls : List Call) :
    let t := final step (withConfig config entropy) calls
    (∀ jkt, (t.outstandingPerJkt.lookup jkt).getD 0 = t.records.countBy Record.jkt jkt ∧
      t.outstandingPerJkt.lookup jkt ≠ some 0 ∧
      t.records.countBy Record.jkt jkt ≤ config.clamp.perJktCapacity) ∧
    t.outstanding ≤ config.clamp.globalCapacity ∧
    (∀ suffix record, t.records.lookup suffix = some record →
      (suffix, record.expiresAtUnix) ∈ t.expiryQueue) ∧
    t.sourceBuckets.size ≤ config.clamp.trackedPartitions ∧
    t.jktBuckets.size ≤ config.clamp.trackedPartitions ∧
    t.globalBucket.tokens ≤ config.globalRate.burst ∧
    (∀ source bucket, t.sourceBuckets.lookup source = some bucket →
      bucket.tokens ≤ config.perSourceRate.burst) ∧
    (∀ jkt bucket, t.jktBuckets.lookup jkt = some bucket →
      bucket.tokens ≤ config.perJktRate.burst) := by
  intro t
  have hsound : t.Sound := invariant Sound sound_step (sound_init config entropy) calls
  have hconfig : t.config = config.clamp :=
    invariant (fun t => t.config = config.clamp)
      (fun t call h => (step_config t call).trans h) rfl calls
  obtain ⟨hcounted, hjkt, hcapacity, hqueued, hsources, hjkts, hglobal⟩ := hsound
  rw [hconfig] at hcapacity hsources hjkts hglobal
  refine ⟨?_, hcapacity, hqueued, hsources.size_le, hjkts.size_le, hglobal, hsources.within,
    hjkts.within⟩
  intro jkt
  have hle := hjkt jkt
  rw [hconfig] at hle
  exact ⟨hcounted.count_eq jkt, hcounted.no_zero jkt, hle⟩

/-! ### A granted challenge stays for its holder -/

def Call.clock : Call → Int
  | .issue _ _ _ now _ => now
  | .consume _ _ _ now => now

structure Holds (id : InstanceId) (suffix : Suffix) (record : Record) (t : ChallengeTable) :
    Prop where
  instance_eq : t.instanceId = some id
  lookup_eq : t.records.lookup suffix = some record

variable {id : InstanceId} {suffix : Suffix} {record : Record}

section Holds

variable (h : Holds id suffix record t)
include h

theorem Holds.removeOther {other : Suffix} (hne : suffix ≠ other) :
    Holds id suffix record (t.removeRecord other) := by
  refine ⟨by rw [removeRecord_instanceId, h.instance_eq], ?_⟩
  rw [removeRecord_lookup, if_neg hne]
  exact h.lookup_eq

theorem Holds.purgeFront (hlive : now ≤ record.expiresAtUnix) :
    Holds id suffix record (t.purgeFront now) := by
  rcases purgeFront_cases t now with ⟨-, hfront⟩ | ⟨front, expiry, _, -, ⟨-, hfront⟩ |
    ⟨swept, hswept, _, ⟨_, hfront⟩ | ⟨-, hfront⟩⟩⟩ <;> rw [hfront]
  · exact h
  · exact ⟨h.instance_eq, h.lookup_eq⟩
  · -- the swept record is past its expiry, the held one is not
    have hne : suffix ≠ front := by
      rintro rfl
      have hheld := h.lookup_eq
      rw [hswept] at hheld
      cases hheld
      omega
    have hrest := h.removeOther hne
    exact ⟨hrest.instance_eq, hrest.lookup_eq⟩
  · exact ⟨h.instance_eq, h.lookup_eq⟩

theorem Holds.purgeExpired (hlive : now ≤ record.expiresAtUnix) :
    Holds id suffix record (t.purgeExpired now) :=
  purgeExpired_induct (fun _ hs => hs.purgeFront hlive) h

theorem Holds.commitIssue {plan : IssuePlan} {other : Suffix}
    (hplan : Passed t jkt source now env plan) (hfree : t.records.lookup other = none)
    (added : Record) : Holds id suffix record (t.commitIssue plan other added) := by
  constructor
  · have hdrawn := hplan.instance_drawn
    rw [h.instance_eq, Option.some_or] at hdrawn
    exact hdrawn.symm
  · have hne : suffix ≠ other := by
      rintro rfl
      rw [h.lookup_eq] at hfree
      cases hfree
    simp only [ChallengeTable.commitIssue, lookup_insert_eq, if_neg hne]
    exact h.lookup_eq

theorem Holds.call (call : Call) (hclock : call.clock ≤ record.expiresAtUnix)
    (hgeneration : ∀ generation now,
      call = .consume (id.bytes ++ suffix.bytes) record.jkt generation now →
        generation = record.generation)
    (hunredeemed : ∀ r, redemptionOf (call, (step t call).2) = some r →
      r.challenge = id.bytes ++ suffix.bytes → r.jkt ≠ record.jkt) :
    Holds id suffix record (step t call).1 := by
  cases call with
  | issue jkt source generation now env =>
    have hpurged := h.purgeExpired hclock
    rcases issue_cases t jkt source generation now env with
      ⟨_, drawn, hissue⟩ | ⟨_, other, drawn, _, hissue, hplan, hfree, -, -⟩
    · simp only [step, hissue]
      exact hpurged
    · simp only [step, hissue]
      exact hpurged.commitIssue (planIssue_eq_ok.mp hplan) hfree _
  | consume challenge jkt generation now =>
    by_cases hchallenge : challenge = id.bytes ++ suffix.bytes
    · subst hchallenge
      have hlive : now ≤ record.expiresAtUnix := hclock
      have hconsume := consume_live h.instance_eq h.lookup_eq hlive jkt generation
      by_cases hjkt : record.jkt = jkt
      · -- its own holder: the right generation would redeem it
        subst hjkt
        have hright := hgeneration generation now rfl
        rw [if_neg (not_not.mpr rfl), if_neg (not_not.mpr hright.symm)] at hconsume
        refine absurd rfl (hunredeemed ⟨_, record.jkt, generation, now⟩ ?_ rfl)
        simp [step, hconsume, redemptionOf]
      · rw [if_pos hjkt] at hconsume
        simp only [step, hconsume]
        exact h
    · simp only [step]
      rcases consume_touches t challenge jkt generation now with
        hkept | ⟨_, other, hid, hother, hremoved⟩
      · rw [hkept]
        exact h
      · rw [hremoved]
        refine h.removeOther ?_
        rintro rfl
        rw [h.instance_eq] at hid
        cases hid
        exact hchallenge hother

theorem Holds.run (calls : List Call)
    (hclock : ∀ call ∈ calls, call.clock ≤ record.expiresAtUnix)
    (hgeneration : ∀ generation now,
      Call.consume (id.bytes ++ suffix.bytes) record.jkt generation now ∈ calls →
        generation = record.generation)
    (hunredeemed : ∀ r ∈ redemptions (events step t calls),
      r.challenge = id.bytes ++ suffix.bytes → r.jkt ≠ record.jkt) :
    Holds id suffix record (final step t calls) := by
  induction calls generalizing t with
  | nil => exact h
  | cons call calls ih =>
    have hfirst : Holds id suffix record (step t call).1 := by
      refine h.call call (hclock call mem_cons_self) ?_ ?_
      · rintro generation now rfl
        exact hgeneration generation now mem_cons_self
      · intro r hr
        exact hunredeemed r (mem_filterMap.mpr ⟨_, mem_cons_self, hr⟩)
    refine ih hfirst ?_ ?_ ?_
    · exact fun c hc => hclock c (mem_cons_of_mem _ hc)
    · exact fun generation now hc => hgeneration generation now (mem_cons_of_mem _ hc)
    · intro r hr
      obtain ⟨e, he, hre⟩ := mem_filterMap.mp hr
      exact hunredeemed r (mem_filterMap.mpr ⟨e, mem_cons_of_mem _ he, hre⟩)

end Holds

theorem issue_holds {generation : Nat} {issued : Issued}
    (h : (t.issue jkt source generation now env).2.result = .ok issued) :
    ∃ id suffix, issued.challenge = id.bytes ++ suffix.bytes ∧
      Holds id suffix ⟨jkt, generation, issued.expiresAtUnix⟩
        (t.issue jkt source generation now env).1 := by
  rcases issue_cases t jkt source generation now env with
    ⟨_, drawn, hissue⟩ | ⟨plan, suffix, drawn, _, hissue, -, -, -, -⟩
  · rw [hissue] at h
    cases h
  · rw [hissue] at h ⊢
    cases h
    exact ⟨plan.instanceId, suffix, rfl, rfl, AList.lookup_insert _⟩

theorem issued_challenge_stays (config : Config) (entropy : Option InstanceId) (past : List Call)
    (jkt : Jkt) (source : SourcePartition) (generation : Nat) (issuedAt : Int) (env : IssueEnv)
    (issued : Issued) (between : List Call) (now : Int) :
    let before := final step (withConfig config entropy) past
    let after := (before.issue jkt source generation issuedAt env).1
    (before.issue jkt source generation issuedAt env).2.result = .ok issued →
    (∀ call ∈ between, call.clock ≤ issued.expiresAtUnix) → now ≤ issued.expiresAtUnix →
    (∀ other reading, Call.consume issued.challenge jkt other reading ∈ between →
      other = generation) →
    (∀ r ∈ redemptions (events step after between),
      r.challenge = issued.challenge → r.jkt ≠ jkt) →
    ((final step after between).consume issued.challenge jkt generation now).2 = .ok () := by
  intro before after hissued hclock hnow hgeneration hunredeemed
  obtain ⟨_, _, hchallenge, hheld⟩ := issue_holds hissued
  rw [hchallenge] at hgeneration hunredeemed ⊢
  have hlast := hheld.run between hclock hgeneration hunredeemed
  have hconsume := consume_live hlast.instance_eq hlast.lookup_eq hnow jkt generation
  rw [if_neg (not_not.mpr rfl), if_neg (not_not.mpr rfl)] at hconsume
  rw [hconsume]

def crowdedRun : List Call :=
  [.consume (List.replicate 16 9 ++ List.replicate 16 3) (fill 32 5) 7 1060,
    .issue (fill 32 5) (fill 32 2) 7 1060
      ⟨none, [some (fill 16 4)], true, [], []⟩,
    .issue (fill 32 6) (fill 32 2) 8 1060
      ⟨none, [some (fill 16 6)], true, [], []⟩,
    .consume (List.replicate 16 9 ++ List.replicate 16 3) (fill 32 6) 8 1060]

theorem crowded_challenge_stays :
    ((final step ((withConfig ⟨2, 1, 60, ⟨8, 1⟩, ⟨8, 1⟩, ⟨8, 1⟩, 4⟩
        (some (fill 16 9))).issue (fill 32 1) (fill 32 2) 7 1000
          ⟨none, [some (fill 16 3)], true, [], []⟩).1 crowdedRun).consume
      (replicate 16 9 ++ replicate 16 3) (fill 32 1) 7 1060).2 = .ok () :=
  issued_challenge_stays ⟨2, 1, 60, ⟨8, 1⟩, ⟨8, 1⟩, ⟨8, 1⟩, 4⟩ (some (fill 16 9)) []
    (fill 32 1) (fill 32 2) 7 1000
    ⟨none, [some (fill 16 3)], true, [], []⟩
    ⟨replicate 16 9 ++ replicate 16 3, 1060⟩ crowdedRun 1060 rfl (by decide) (by decide)
    (by
      intro other reading hmem
      have hfirst : fill 32 1 ≠ fill 32 5 := by decide
      have hsecond : fill 32 1 ≠ fill 32 6 := by decide
      simp [crowdedRun, hfirst, hsecond] at hmem)
    (by decide)

end Basil.Challenge
