import Basil.Lib.Machine
import Basil.Lib.Tally

/-!
# Per-run quota counters (`core/ci_federation.rs`)
-/

namespace Basil.RunQuota

structure RunQuotaKey where
  ruleId : String
  runId : Nat
  runAttempt : Nat
  deriving DecidableEq

structure RunQuotaBucket where
  count : Nat
  expiresAtUnix : Int
  deriving DecidableEq

structure RunQuotaTable where
  maxTrackedBucketsPerRule : Nat
  generation : Option Nat
  counters : Table RunQuotaKey RunQuotaBucket
  ruleBuckets : Table String Nat

inductive RunQuotaDenied where
  | exhausted
  | quotaUnavailable
  | untracked
  deriving DecidableEq

structure RunQuotaReceipt where
  chargedCount : Nat
  remaining : Nat
  deriving DecidableEq

namespace RunQuotaTable

def new (maxTrackedBucketsPerRule : Nat) : RunQuotaTable := ⟨maxTrackedBucketsPerRule, none, ∅, ∅⟩

/-- A charge under a newer generation clears the counters; an older one does not. -/
def enterGeneration (t : RunQuotaTable) (generation : Nat) : RunQuotaTable :=
  match t.generation with
  | none => { t with generation := some generation }
  | some tracked =>
      if tracked < generation then
        { t with counters := ∅, ruleBuckets := ∅, generation := some generation }
      else t

abbrev releaseBucket (ruleBuckets : Table String Nat) (ruleId : String) : Table String Nat :=
  ruleBuckets.decrement ruleId

def reclaimExpired (t : RunQuotaTable) (now : Int) : RunQuotaTable :=
  let expired := (Table.toPairs t.counters).filter fun e => e.2.expiresAtUnix ≤ now
  { t with
    counters := t.counters.retain fun _ b => now < b.expiresAtUnix
    ruleBuckets := expired.foldl (fun m e => releaseBucket m e.1.ruleId) t.ruleBuckets }

def ruleFull (t : RunQuotaTable) (ruleId : String) : Bool :=
  t.maxTrackedBucketsPerRule ≤ (t.ruleBuckets.lookup ruleId).getD 0

def openBucket (t : RunQuotaTable) (key : RunQuotaKey) (expiresAtUnix : Int) : RunQuotaTable :=
  { t with
    counters := t.counters.insert key ⟨1, expiresAtUnix⟩
    ruleBuckets := t.ruleBuckets.insert key.ruleId ((t.ruleBuckets.lookup key.ruleId).getD 0 + 1) }

def chargeBucket (t : RunQuotaTable) (key : RunQuotaKey) (limit : Nat) (expiresAtUnix now : Int) :
    RunQuotaTable × Except RunQuotaDenied RunQuotaReceipt :=
  match t.counters.lookup key with
  | some bucket =>
      let expiry := max bucket.expiresAtUnix expiresAtUnix
      if limit ≤ bucket.count then
        ({ t with counters := t.counters.insert key ⟨bucket.count, expiry⟩ }, .error .exhausted)
      else
        let count := satAddU64 bucket.count 1
        ({ t with counters := t.counters.insert key ⟨count, expiry⟩ }, .ok ⟨count, limit - count⟩)
  | none =>
      let t := if t.ruleFull key.ruleId then t.reclaimExpired now else t
      if t.ruleFull key.ruleId then (t, .error .untracked)
      else (t.openBucket key expiresAtUnix, .ok ⟨1, limit - 1⟩)

def chargeWithReceipt (t : RunQuotaTable) (generation : Nat) (key : RunQuotaKey)
    (limit : Option Nat) (retentionSecs : Nat) (now : Int) :
    RunQuotaTable × Except RunQuotaDenied RunQuotaReceipt :=
  match limit with
  | none => (t, .error .quotaUnavailable)
  | some limit =>
      if limit = 0 then (t, .error .exhausted)
      else (t.enterGeneration generation).chargeBucket key limit
        (satAddI64 now (min retentionSecs i64Max)) now

/-! ### What a charge keeps

A table holds at least `n` charges of a key under a generation when it tracks that
generation or a later one and its bucket has counted `n`. -/

def Holds (t : RunQuotaTable) (generation : Nat) (key : RunQuotaKey) (n : Nat) : Prop :=
  (∃ tracked, t.generation = some tracked ∧ generation ≤ tracked) ∧
    ∃ bucket, t.counters.lookup key = some bucket ∧ n ≤ bucket.count

def NoneExpired (t : RunQuotaTable) (now : Int) : Prop :=
  ∀ key bucket, t.counters.lookup key = some bucket → now < bucket.expiresAtUnix

variable {t : RunQuotaTable} {generation pinned n : Nat} {key key' : RunQuotaKey} {now : Int}

theorem Holds.enterGeneration_eq (h : t.Holds generation key n) (hpinned : pinned ≤ generation) :
    t.enterGeneration pinned = t := by
  obtain ⟨⟨tracked, htracked, _⟩, -⟩ := h
  have hnot : ¬ tracked < pinned := by omega
  simp [enterGeneration, htracked, if_neg hnot]

theorem enterGeneration_tracks (t : RunQuotaTable) (generation : Nat) :
    ∃ tracked, (t.enterGeneration generation).generation = some tracked ∧ generation ≤ tracked := by
  unfold enterGeneration
  split
  · exact ⟨generation, rfl, le_refl generation⟩
  · next tracked htracked =>
    split
    · exact ⟨generation, rfl, le_refl generation⟩
    · next hnot => exact ⟨tracked, htracked, by omega⟩

theorem enterGeneration_lookup {b : RunQuotaBucket}
    (h : (t.enterGeneration generation).counters.lookup key = some b) :
    t.counters.lookup key = some b := by
  unfold enterGeneration at h
  split at h
  · exact h
  · split at h
    · simp at h
    · exact h

theorem NoneExpired.reclaimExpired_lookup (h : t.NoneExpired now) (key : RunQuotaKey) :
    (t.reclaimExpired now).counters.lookup key = t.counters.lookup key := by
  simp only [reclaimExpired, Table.lookup_retain]
  cases hlookup : t.counters.lookup key with
  | none => rfl
  | some bucket =>
    have hlive := h key bucket hlookup
    simp [hlive]

theorem Holds.chargeBucket (h : t.Holds generation key n) (hlive : t.NoneExpired now)
    (hn : n ≤ u64Max) (key' : RunQuotaKey) (limit : Nat) (expiresAtUnix : Int) :
    (t.chargeBucket key' limit expiresAtUnix now).1.Holds generation key n := by
  obtain ⟨htracked, bucket, hbucket, hcount⟩ := h
  unfold RunQuotaTable.chargeBucket
  cases hlookup : t.counters.lookup key' with
  | some bucket' =>
    dsimp only
    by_cases hkey : key = key'
    · subst hkey
      rw [hbucket] at hlookup
      cases hlookup
      split
      · exact ⟨htracked, _, Table.lookup_insert_eq _ _ _ _ |>.trans (if_pos rfl), hcount⟩
      · refine ⟨htracked, _, Table.lookup_insert_eq _ _ _ _ |>.trans (if_pos rfl), ?_⟩
        show n ≤ min (bucket.count + 1) u64Max
        omega
    · have hother : ∀ b, (t.counters.insert key' b).lookup key = some bucket := by
        intro b
        rw [Table.lookup_insert_eq, if_neg hkey, hbucket]
      split
      · exact ⟨htracked, bucket, hother _, hcount⟩
      · exact ⟨htracked, bucket, hother _, hcount⟩
  | none =>
    have hkey : key ≠ key' := by
      intro heq
      rw [heq, hlookup] at hbucket
      cases hbucket
    dsimp only
    -- reclaiming drops nothing, so both tables hold the bucket
    have hkept : (if t.ruleFull key'.ruleId = true then t.reclaimExpired now else t).Holds generation
        key n := by
      split
      · exact ⟨htracked, bucket, by rw [hlive.reclaimExpired_lookup, hbucket], hcount⟩
      · exact ⟨htracked, bucket, hbucket, hcount⟩
    generalize (if t.ruleFull key'.ruleId = true then t.reclaimExpired now else t) = t' at hkept ⊢
    obtain ⟨htracked', bucket', hbucket', hcount'⟩ := hkept
    split
    · exact ⟨htracked', bucket', hbucket', hcount'⟩
    · refine ⟨htracked', bucket', ?_, hcount'⟩
      simp [openBucket, Table.lookup_insert_eq, if_neg hkey, hbucket']

theorem chargeBucket_admits {limit : Nat} {expiresAtUnix : Int} {receipt : RunQuotaReceipt}
    (htracked : ∃ tracked, t.generation = some tracked ∧ generation ≤ tracked)
    (hn : ∀ bucket, t.counters.lookup key = some bucket → n ≤ bucket.count)
    (hnone : t.counters.lookup key = none → n = 0) (hlimit : 0 < limit) (hmax : limit ≤ u64Max)
    (hok : (t.chargeBucket key limit expiresAtUnix now).2 = .ok receipt) :
    n + 1 ≤ limit ∧
      (t.chargeBucket key limit expiresAtUnix now).1.Holds generation key (n + 1) := by
  unfold RunQuotaTable.chargeBucket at hok ⊢
  cases hlookup : t.counters.lookup key with
  | some bucket =>
    have hcount := hn bucket hlookup
    simp only [hlookup] at hok
    dsimp only
    split at hok
    · cases hok
    · next hbelow =>
      rw [if_neg hbelow]
      refine ⟨by omega, htracked, _, Table.lookup_insert_eq _ _ _ _ |>.trans (if_pos rfl), ?_⟩
      show n + 1 ≤ min (bucket.count + 1) u64Max
      omega
  | none =>
    have hzero := hnone hlookup
    subst hzero
    simp only [hlookup] at hok
    have hgeneration : (if t.ruleFull key.ruleId = true then t.reclaimExpired now else t).generation =
        t.generation := by
      split <;> rfl
    generalize (if t.ruleFull key.ruleId = true then t.reclaimExpired now else t) = t'
      at hok hgeneration ⊢
    split at hok
    · cases hok
    · next hroom =>
      rw [if_neg hroom]
      refine ⟨by omega, ?_, ⟨1, expiresAtUnix⟩, ?_, le_refl 1⟩
      · simpa [openBucket, hgeneration] using htracked
      · simp [openBucket]

/-! ### A table with one bucket -/

structure OnlyBucket (t : RunQuotaTable) (generation : Nat) (key : RunQuotaKey)
    (bucket : RunQuotaBucket) : Prop where
  tracks : t.generation = some generation
  lookup_eq : ∀ k, t.counters.lookup k = if k = key then some bucket else none

theorem OnlyBucket.noneExpired {bucket : RunQuotaBucket} (h : t.OnlyBucket generation key bucket)
    (hexpiry : now < bucket.expiresAtUnix) : t.NoneExpired now := by
  intro k b hlookup
  rw [h.lookup_eq k] at hlookup
  split at hlookup
  · cases hlookup
    exact hexpiry
  · cases hlookup

theorem new_noneExpired (buckets : Nat) (now : Int) : (new buckets).NoneExpired now := by
  intro k b hlookup
  simp [new] at hlookup

theorem new_chargeWithReceipt {buckets limit : Nat} (hbuckets : 0 < buckets) (hlimit : 0 < limit)
    (generation : Nat) (key : RunQuotaKey) (retentionSecs : Nat) (now : Int) :
    ∃ t receipt, (new buckets).chargeWithReceipt generation key (some limit) retentionSecs now =
        (t, .ok receipt) ∧
      t.OnlyBucket generation key ⟨1, satAddI64 now (min retentionSecs i64Max)⟩ := by
  have hne : limit ≠ 0 := by omega
  have hroom : ¬ buckets = 0 := by omega
  refine ⟨((new buckets).enterGeneration generation).openBucket key
    (satAddI64 now (min retentionSecs i64Max)), ⟨1, limit - 1⟩, ?_, rfl, ?_⟩
  · simp [chargeWithReceipt, hne, new, enterGeneration, RunQuotaTable.chargeBucket, ruleFull, hroom]
  · intro k
    simp only [openBucket, Table.lookup_insert_eq]
    rfl

end RunQuotaTable

end Basil.RunQuota
