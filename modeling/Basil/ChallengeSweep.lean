import Basil.ChallengeBounds
import Mathlib.Data.List.Rotate

/-!
# What a declined issue leaves, and which records a capacity decline counts

A declined issue keeps the effect of its sweep only.
-/

namespace Basil.Challenge

open ChallengeTable FixedBytes Table Trace UInt8 List

variable {t s : ChallengeTable} {suffix : Suffix} {record : Record} {now : Int}

/-! ### The effect of a sweep -/

def ChallengeTable.frozen (t : ChallengeTable) :=
  (t.config, t.instanceId, t.globalBucket, t.jktBuckets, t.sourceBuckets)

def ChallengeTable.counter (t : ChallengeTable) (jkt : Jkt) : Nat :=
  (t.outstandingPerJkt.lookup jkt).getD 0

def ChallengeTable.AllLive (t : ChallengeTable) (now : Int) (jkt : Jkt) : Prop :=
  ∀ suffix record, t.records.lookup suffix = some record → record.jkt = jkt →
    now ≤ record.expiresAtUnix

structure Swept (now : Int) (t s : ChallengeTable) : Prop where
  frozen_eq : s.frozen = t.frozen
  records_sub : ∀ suffix record, s.records.lookup suffix = some record →
    t.records.lookup suffix = some record
  live_kept : ∀ suffix record, now ≤ record.expiresAtUnix →
    t.records.lookup suffix = some record → s.records.lookup suffix = some record
  count_le : ∀ jkt, s.records.countBy Record.jkt jkt ≤ t.records.countBy Record.jkt jkt
  counted : ∀ jkt, s.counter jkt =
    t.counter jkt - (t.records.countBy Record.jkt jkt - s.records.countBy Record.jkt jkt)
  counter_kept : ∀ jkt, t.AllLive now jkt →
    s.outstandingPerJkt.lookup jkt = t.outstandingPerJkt.lookup jkt

namespace Swept

theorem refl (now : Int) (t : ChallengeTable) : Swept now t t where
  frozen_eq := rfl
  records_sub := fun _ _ h => h
  live_kept := fun _ _ _ h => h
  count_le := fun _ => le_rfl
  counted := fun _ => by rw [Nat.sub_self, Nat.sub_zero]
  counter_kept := fun _ _ => rfl

theorem requeue (h : Swept now t s) (queue : List (Suffix × Int)) :
    Swept now t { s with expiryQueue := queue } := ⟨h.1, h.2, h.3, h.4, h.5, h.6⟩

theorem removeRecord (h : Swept now t s) (hrecord : s.records.lookup suffix = some record)
    (hexpired : record.expiresAtUnix < now) : Swept now t (s.removeRecord suffix) := by
  have hcount (jkt : Jkt) := countBy_eq_erase Record.jkt hrecord jkt
  have hlookup (jkt : Jkt) := lookup_decrement s.outstandingPerJkt record.jkt jkt
  have hremoved : s.removeRecord suffix = { s with
      records := s.records.erase suffix
      outstandingPerJkt := decrement s.outstandingPerJkt record.jkt } := by
    simp only [ChallengeTable.removeRecord, hrecord]
  rw [hremoved]
  refine ⟨h.frozen_eq, ?_, ?_, ?_, ?_, ?_⟩
  · intro other r hr
    rw [lookup_erase_eq] at hr
    split at hr
    · cases hr
    · exact h.records_sub other r hr
  · intro other r hlive hr
    have hkept := h.live_kept other r hlive hr
    rw [lookup_erase_eq, if_neg]
    · exact hkept
    · rintro rfl
      rw [hrecord] at hkept
      cases hkept
      omega
  · intro jkt
    have hle := h.count_le jkt
    have hfewer := hcount jkt
    dsimp only
    omega
  · intro jkt
    have hle := h.count_le jkt
    have hbefore := h.counted jkt
    have hfewer := hcount jkt
    simp only [counter, hlookup] at hbefore ⊢
    by_cases hjkt : jkt = record.jkt
    · subst hjkt
      rw [if_pos rfl] at hfewer
      rw [if_pos rfl]
      cases hcounter : s.outstandingPerJkt.lookup record.jkt with
      | none =>
        rw [hcounter] at hbefore
        simp only [Option.getD_none, Option.map_none, Option.filter_none] at hbefore ⊢
        omega
      | some n =>
        rw [hcounter, Option.getD_some] at hbefore
        by_cases hzero : n - 1 = 0
        · simp [hzero, Option.filter]
          omega
        · simp [hzero, Option.filter]
          omega
    · rw [if_neg (Ne.symm hjkt)] at hfewer
      rw [if_neg hjkt, hbefore]
      omega
  · intro jkt hlive
    have hne : jkt ≠ record.jkt := by
      rintro rfl
      have hheld := hlive suffix record (h.records_sub suffix record hrecord) rfl
      omega
    simp only [hlookup, if_neg hne]
    exact h.counter_kept jkt hlive

theorem purgeFront (h : Swept now t s) : Swept now t (s.purgeFront now) := by
  rcases purgeFront_cases s now with ⟨-, hfront⟩ | ⟨_, _, rest, -, ⟨-, hfront⟩ |
    ⟨_, hrecord, hexpiry, ⟨hexpired, hfront⟩ | ⟨-, hfront⟩⟩⟩ <;> rw [hfront]
  · exact h
  · exact h.requeue rest
  · exact (h.removeRecord hrecord (hexpiry ▸ hexpired)).requeue rest
  · exact h.requeue _

theorem purgeExpired (now : Int) (t : ChallengeTable) : Swept now t (t.purgeExpired now) :=
  purgeExpired_induct (fun _ h => h.purgeFront) (refl now t)

end Swept

theorem declined_issue_consumes_nothing (t : ChallengeTable) (jkt : Jkt) (source : SourcePartition)
    (generation : Nat) (now : Int) (env : IssueEnv) (decline : IssueDecline)
    (h : (t.issue jkt source generation now env).2.result = .error decline) :
    let s := (t.issue jkt source generation now env).1
    s.instanceId = t.instanceId ∧ s.globalBucket = t.globalBucket ∧ s.jktBuckets = t.jktBuckets ∧
    s.sourceBuckets = t.sourceBuckets ∧ s.config = t.config ∧
    (∀ suffix record, now ≤ record.expiresAtUnix →
      (s.records.lookup suffix = some record ↔ t.records.lookup suffix = some record)) ∧
    (∀ suffix record, s.records.lookup suffix = some record →
      t.records.lookup suffix = some record) ∧
    (∀ other, t.AllLive now other →
      s.outstandingPerJkt.lookup other = t.outstandingPerJkt.lookup other) ∧
    ∀ other, s.counter other =
      t.counter other - (t.records.countBy Record.jkt other - s.records.countBy Record.jkt other) := by
  intro s
  have hs : s = t.purgeExpired now := by
    rcases issue_cases t jkt source generation now env with
      ⟨decline, drawn, hissue⟩ | ⟨_, suffix, drawn, _, hissue, -⟩
    · exact congrArg Prod.fst hissue
    · rw [hissue] at h
      cases h
  rw [hs]
  have hswept := Swept.purgeExpired now t
  have hfrozen := hswept.frozen_eq
  simp only [frozen, Prod.mk.injEq] at hfrozen
  obtain ⟨hconfig, hid, hglobal, hjkts, hsources⟩ := hfrozen
  refine ⟨hid, hglobal, hjkts, hsources, hconfig, ?_, hswept.records_sub, hswept.counter_kept,
    hswept.counted⟩
  intro suffix record hlive
  exact ⟨hswept.records_sub suffix record, hswept.live_kept suffix record hlive⟩

def lapsedTable : ChallengeTable :=
  ((withConfig ⟨2, 2, 60, ⟨8, 1⟩, ⟨8, 1⟩, ⟨8, 1⟩, 4⟩ (some (fill 16 9))).issue
    (fill 32 1) (fill 32 2) 7 1000
    ⟨none, [some (fill 16 3)], true, [], []⟩).1

theorem declined_without_entropy :
    let s := (lapsedTable.issue (fill 32 1) (fill 32 2) 7 1061
      ⟨none, [], true, [], []⟩).1
    s.records.size = 0 ∧ s.globalBucket = lapsedTable.globalBucket :=
  ⟨by decide, (declined_issue_consumes_nothing lapsedTable _ _ 7 1061 _ .entropyUnavailable
    (by decide)).2.1⟩

/-! ### The reach of a sweep -/

def ChallengeTable.live (t : ChallengeTable) (now : Int) : Table Suffix Record :=
  t.records.retain fun _ record => decide (now ≤ record.expiresAtUnix)

/-- Every record that has expired is among the entries that a sweep examines. -/
def ChallengeTable.Reached (t : ChallengeTable) (now : Int) : Prop :=
  ∀ suffix record, t.records.lookup suffix = some record → record.expiresAtUnix < now →
    (suffix, record.expiresAtUnix) ∈ t.expiryQueue.take expiryCleanupLimit

theorem purgeRounds_removes (hexpired : record.expiresAtUnix < now) (rounds : Nat)
    (hqueued : (suffix, record.expiresAtUnix) ∈ t.expiryQueue.take rounds) :
    (t.purgeRounds now rounds).records.lookup suffix ≠ some record := by
  induction rounds generalizing t with
  | zero => simp at hqueued
  | succ n ih =>
    intro hlast
    have hkept := (Shrinks.purgeRounds (t.purgeFront now) now n).records_sub suffix record hlast
    have hfirst := (Shrinks.purgeFront t now).records_sub suffix record hkept
    -- the entry is the front one, or it comes within the rounds that are left
    have hlater (rest more : List (Suffix × Int))
        (hmem : (suffix, record.expiresAtUnix) ∈ rest.take n)
        (hfront : (t.purgeFront now).expiryQueue = rest ++ more) : False := by
      refine ih ?_ hlast
      rw [hfront, take_append]
      exact mem_append_left _ hmem
    rcases purgeFront_cases t now with ⟨hq, -⟩ | ⟨front, _, rest, hq, hcases⟩
    · rw [hq, take_nil] at hqueued
      cases hqueued
    · rw [hq, take_succ_cons, mem_cons, Prod.mk.injEq] at hqueued
      rcases hqueued with ⟨rfl, rfl⟩ | hrest
      · rcases hcases with ⟨hstale, -⟩ | ⟨other, hother, -, ⟨-, hfront⟩ | ⟨_, -⟩⟩
        · exact hstale record hfirst rfl
        · rw [hfront, removeRecord_lookup, if_pos rfl] at hkept
          cases hkept
        · omega
      · rcases hcases with ⟨-, hfront⟩ | ⟨other, hother, -, ⟨-, hfront⟩ | ⟨-, hfront⟩⟩
        · exact hlater rest [] hrest (by simp [hfront])
        · exact hlater rest [] hrest (by simp [hfront])
        · exact hlater rest _ hrest (by rw [hfront])

theorem purgeExpired_removes (hexpired : record.expiresAtUnix < now)
    (hqueued : (suffix, record.expiresAtUnix) ∈ t.expiryQueue.take expiryCleanupLimit) :
    (t.purgeExpired now).records.lookup suffix ≠ some record := by
  apply purgeRounds_removes hexpired
  rw [← take_take, take_of_length_le (length_take_le' _ _)]
  exact hqueued

theorem purgeExpired_live (h : t.Reached now) (suffix : Suffix) :
    (t.purgeExpired now).records.lookup suffix = (t.live now).lookup suffix := by
  have hswept := Swept.purgeExpired now t
  apply Option.ext
  intro record
  rw [live, lookup_retain, Option.filter_eq_some_iff, decide_eq_true_eq]
  constructor
  · intro hkept
    have hfirst := hswept.records_sub suffix record hkept
    refine ⟨hfirst, ?_⟩
    by_contra hexpired
    rw [Int.not_le] at hexpired
    exact purgeExpired_removes hexpired (h suffix record hfirst hexpired) hkept
  · rintro ⟨hfirst, hlive⟩
    exact hswept.live_kept suffix record hlive hfirst

/-! ### Capacity declines -/

theorem reached_of_short (hsound : t.Sound) (hshort : t.expiryQueue.length ≤ expiryCleanupLimit)
    (now : Int) : t.Reached now := by
  intro suffix record hrecord _
  rw [take_of_length_le hshort]
  exact hsound.queued suffix record hrecord

variable {jkt : Jkt} {source : SourcePartition} {env : IssueEnv} {n : Nat}

theorem planIssue_capacity (h : t.planIssue jkt source now env = .error .capacityExhausted) :
    t.config.globalCapacity ≤ t.records.size ∨ t.config.perJktCapacity ≤ t.counter jkt := by
  simp only [planIssue, bind_eq_error, orErr_eq_error, orErr_eq_ok, ensure_eq_error, ensure_eq_ok,
    reduceCtorEq, and_false, and_true, false_or, Nat.not_lt] at h
  obtain ⟨_, -, hglobal | ⟨-, -, hjkt | ⟨-, -, _, -, _, -, _, -, hplan⟩⟩⟩ := h
  · exact .inl hglobal
  · exact .inr hjkt
  · cases hplan

theorem issue_capacity {generation : Nat} (hreserve : env.reserveOk = true)
    (h : (t.issue jkt source generation now env).2.result = .error .capacityExhausted) :
    (t.purgeExpired now).planIssue jkt source now env = .error .capacityExhausted := by
  cases hplan : (t.purgeExpired now).planIssue jkt source now env with
  | error decline =>
    simp only [issue, hplan] at h
    cases h
    rfl
  | ok plan =>
    rcases hdraw : unusedSuffix (t.purgeExpired now).records env.suffixDraws with ⟨found, _⟩
    cases found <;> simp [issue, hplan, hdraw, hreserve] at h

theorem capacity_decline_counts_live (hsound : t.Sound) (hreached : t.Reached now)
    {generation : Nat} (hreserve : env.reserveOk = true)
    (h : (t.issue jkt source generation now env).2.result = .error .capacityExhausted) :
    t.config.globalCapacity ≤ (t.live now).size ∨
      t.config.perJktCapacity ≤ (t.live now).countBy Record.jkt jkt := by
  have hsame := purgeExpired_live hreached
  have hcounter := (hsound.purgeExpired now).counted.count_eq jkt
  have hfull := planIssue_capacity (issue_capacity hreserve h)
  rw [(Shrinks.purgeExpired t now).config_eq, counter, hcounter, size_eq_countBy,
    countBy_congr hsame, countBy_congr hsame, ← size_eq_countBy] at hfull
  exact hfull

/-- The issue calls of a run find their expired records within the reach of the sweep. -/
def SweepReaches (t : ChallengeTable) : Call → Prop
  | .issue _ _ _ now _ => t.Reached now
  | .consume .. => True

theorem capacity_declines_are_live (config : Config) (entropy : Option InstanceId)
    (calls : List Call)
    (hrun : Along step SweepReaches (withConfig config entropy) calls)
    (past rest : List Call) (jkt : Jkt) (source : SourcePartition) (generation : Nat) (now : Int)
    (env : IssueEnv) (hcalls : calls = past ++ .issue jkt source generation now env :: rest)
    (hreserve : env.reserveOk = true) :
    let t := final step (withConfig config entropy) past
    (t.issue jkt source generation now env).2.result = .error .capacityExhausted →
      config.clamp.globalCapacity ≤ (t.live now).size ∨
        config.clamp.perJktCapacity ≤ (t.live now).countBy Record.jkt jkt := by
  intro t hdeclined
  have hsound : t.Sound := invariant Sound sound_step (sound_init config entropy) past
  have hconfig : t.config = config.clamp :=
    invariant (fun t => t.config = config.clamp)
      (fun t call h => (step_config t call).trans h) rfl past
  have hreached : t.Reached now := along_iff.mp hrun past _ rest hcalls
  rw [← hconfig]
  exact capacity_decline_counts_live hsound hreached hreserve hdeclined

def nthSuffix (n : Nat) : Suffix := fill 16 (ofNat n)

def nthKey (n : Nat) : FixedBytes 32 := fill 32 (ofNat n)

def nthIssue (n : Nat) (now : Int) : Call :=
  .issue (nthKey n) (nthKey n) 7 now ⟨none, [some (nthSuffix n)], true, [], []⟩

theorem full_table_declines :
    let t := final step (withConfig ⟨1, 1, 60, ⟨8, 1⟩, ⟨8, 1⟩, ⟨8, 1⟩, 4⟩
      (some (fill 16 9))) [nthIssue 1 1000]
    (t.issue (nthKey 2) (nthKey 2) 7 1060 ⟨none, [some (nthSuffix 2)], true, [], []⟩).2.result =
        .error .capacityExhausted ∧
      (1 ≤ (t.live 1060).size ∨ 1 ≤ (t.live 1060).countBy Record.jkt (nthKey 2)) := by
  intro t
  have hsound := sound_init ⟨1, 1, 60, ⟨8, 1⟩, ⟨8, 1⟩, ⟨8, 1⟩, 4⟩ (some (fill 16 9))
  have hdeclined : (t.issue (nthKey 2) (nthKey 2) 7 1060
      ⟨none, [some (nthSuffix 2)], true, [], []⟩).2.result = .error .capacityExhausted := by decide
  refine ⟨hdeclined, capacity_declines_are_live _ _ [nthIssue 1 1000, nthIssue 2 1060] ?_
    [nthIssue 1 1000] [] _ _ _ _ _ rfl rfl hdeclined⟩
  exact ⟨reached_of_short hsound (by decide) _,
    reached_of_short (sound_step _ _ hsound) (by decide) _, trivial⟩

/-! ### A sweep that misses an expired record -/

def nthReading (n : Nat) : Int := if n = 0 then 0 else 1

def crowdedConfig : Config := ⟨65, 1, 60, ⟨100, 1⟩, ⟨8, 1⟩, ⟨8, 1⟩, 100⟩

def crowdedTable : ChallengeTable := withConfig crowdedConfig (some (fill 16 9))

def crowdedCalls : List Call :=
  (List.range 65).map (fun i => nthIssue i (nthReading i)) ++ List.replicate 64 (nthIssue 65 1)

def crowded : ChallengeTable := final step crowdedTable crowdedCalls

theorem expired_record_fills_the_table :
    (crowdedCalls ++ [nthIssue 65 61]).Pairwise (fun c d => c.clock ≤ d.clock) ∧
    (crowded.issue (nthKey 65) (nthKey 65) 7 61
      ⟨none, [some (nthSuffix 65)], true, [], []⟩).2.result = .error .capacityExhausted ∧
    (crowded.live 61).size < crowdedConfig.clamp.globalCapacity ∧
    (crowded.live 61).countBy Record.jkt (nthKey 65) < crowdedConfig.clamp.perJktCapacity := by
  decide +kernel

end Basil.Challenge
