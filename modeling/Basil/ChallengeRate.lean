import Basil.ChallengeSweep
import Mathlib.Data.Set.Finite.Lattice

/-!
# Rate limits of the challenge table

A bucket gains tokens for every second its clock moves forward, also for seconds that it has been
through before.
-/

namespace Basil.Challenge

open Option hiding map map_id map_map

open ChallengeTable PartitionDebit Trace List TokenBucket

/-! ### One bucket under any clock -/

/-- `TokenBucket::try_take`: a failed attempt leaves the bucket refilled. -/
def TokenBucket.take (config : TokenBucketConfig) (b : TokenBucket) (now : Int) :
    TokenBucket × Bool :=
  match b.tryTake config now with
  | some taken => (taken, true)
  | none => (b.refill config now, false)

def takes (config : TokenBucketConfig) (b : TokenBucket) (readings : List Int) : Nat :=
  (events (TokenBucket.take config) b readings).countP fun e => e.2

def span (readings : List Int) : Nat := (readings.max?.getD 0 - readings.min?.getD 0).toNat

/-- How far the clock moves forward along the readings. -/
def forward : List Int → Nat
  | a :: b :: rest => min (b - a).toNat u32Max + forward (b :: rest)
  | _ => 0

def attempts (path : List Int) (more : List Nat) : List Int :=
  (path.zip more).flatMap fun e => List.replicate (e.2 + 1) e.1

variable {config : TokenBucketConfig} {b : TokenBucket} {now : Int}

theorem takes_cons (config : TokenBucketConfig) (b : TokenBucket) (now : Int) (rest : List Int) :
    takes config b (now :: rest) =
      (if (b.take config now).2 then 1 else 0) + takes config (b.take config now).1 rest := by
  simp only [takes, events_cons, countP_cons]
  omega

section Bucket

variable (hburst : config.burst ≤ u32Max) (h : b.Within config)
include hburst h

theorem take_spec (now : Int) :
    (b.take config now).1.lastRefillUnix = now ∧ (b.take config now).1.Within config ∧
      (b.take config now).1.tokens + (if (b.take config now).2 then 1 else 0) =
        min (b.tokens + b.elapsed now * config.refillPerSec) config.burst ∧
      ((b.take config now).2 = false → (b.take config now).1.tokens = 0) := by
  unfold TokenBucket.take
  cases htake : b.tryTake config now with
  | some taken =>
    obtain ⟨hlast, htokens⟩ := (TokenBucket.tryTake_eq_some hburst h).mp htake
    exact ⟨hlast, h.tryTake htake, htokens, nofun⟩
  | none =>
    have hrefill := refill_eq hburst h now
    have hempty : (b.refill config now).tokens = 0 := by
      simp only [TokenBucket.tryTake] at htake
      split at htake
      · assumption
      · cases htake
    refine ⟨by rw [hrefill], h.refill now, ?_, fun _ => hempty⟩
    rw [hrefill]
    rfl

theorem takes_le (readings : List Int) :
    takes config b readings ≤
      b.tokens + config.refillPerSec * forward (b.lastRefillUnix :: readings) := by
  induction readings generalizing b with
  | nil => exact Nat.zero_le _
  | cons now rest ih =>
    obtain ⟨hlast, hwithin, _, -⟩ := take_spec hburst h now
    have hrest := ih hwithin
    rw [hlast] at hrest
    rw [takes_cons, forward, ← elapsed, Nat.mul_add, Nat.mul_comm _ (b.elapsed now)]
    omega

theorem takes_le_burst (readings : List Int) :
    takes config b readings ≤ config.burst + config.refillPerSec * forward readings := by
  cases readings with
  | nil => exact Nat.zero_le _
  | cons now rest =>
    obtain ⟨hlast, hwithin, _, -⟩ := take_spec hburst h now
    have hrest := takes_le hburst hwithin rest
    rw [hlast] at hrest
    rw [takes_cons]
    omega

theorem isIdle_iff :
    b.isIdle config now = true ↔
      config.burst ≤ b.tokens + b.elapsed now * config.refillPerSec := by
  rw [isIdle, decide_eq_true_eq, refill_eq hburst h]
  exact le_min_iff.trans (and_iff_left le_rfl)

theorem idle_tryTake (hidle : b.isIdle config now = true) :
    b.tryTake config now = (new config now).tryTake config now := by
  rw [isIdle_iff hburst h] at hidle
  have hnew : config.burst ≤ (new config now).tokens +
      (new config now).elapsed now * config.refillPerSec := Nat.le_add_right _ _
  rw [tryTake, tryTake, refill_eq hburst h,
    refill_eq hburst (within_new config now), min_eq_right hidle,
    min_eq_right hnew]

/-! With enough attempts a bucket is drained at every reading. -/

theorem takes_drain (rest : List Int) {n : Nat}
    (hn : min (b.tokens + b.elapsed now * config.refillPerSec) config.burst ≤ n + 1) :
    takes config b (replicate (n + 1) now ++ rest) =
      min (b.tokens + b.elapsed now * config.refillPerSec) config.burst +
        takes config ⟨0, now⟩ rest := by
  obtain ⟨hlast, hwithin, htokens, hempty⟩ := take_spec hburst h now
  -- after the first attempt the reading adds nothing
  have hstill : (b.take config now).1.elapsed now = 0 := by
    rw [TokenBucket.elapsed, hlast, Int.sub_self]
    rfl
  induction n generalizing b with
  | zero =>
    have hdrained : (b.take config now).1 = ⟨0, now⟩ := by
      have hzero : (b.take config now).1.tokens = 0 := by
        split at htokens
        · omega
        · next hfailed => exact hempty (Bool.eq_false_iff.mpr hfailed)
      exact congrArg₂ TokenBucket.mk hzero hlast
    rw [replicate_one, singleton_append, takes_cons, ← htokens, hdrained]
    dsimp only
    omega
  | succ n ih =>
    obtain ⟨hlast', hwithin', htokens', hempty'⟩ := take_spec hburst hwithin now
    have hfull : min ((b.take config now).1.tokens +
        (b.take config now).1.elapsed now * config.refillPerSec) config.burst =
        (b.take config now).1.tokens := by
      rw [hstill, Nat.zero_mul, Nat.add_zero]
      exact min_eq_left hwithin
    have hleft : (b.take config now).1.tokens ≤ n + 1 := by
      split at htokens
      · omega
      · next hfailed =>
        rw [hempty (Bool.eq_false_iff.mpr hfailed)]
        omega
    have hrest := ih hwithin (hfull.trans_le hleft) hlast' hwithin' htokens' hempty' (by
      rw [TokenBucket.elapsed, hlast', Int.sub_self]
      rfl)
    rw [replicate_succ, cons_append, takes_cons, hrest, hfull, ← htokens]
    omega

end Bucket

/-! Repeated attempts add nothing to the way of the clock. -/

theorem forward_repeat (n : Nat) (a : Int) (rest : List Int) :
    forward (replicate (n + 1) a ++ rest) = forward (a :: rest) := by
  induction n with
  | zero => rfl
  | succ n ih =>
    rw [replicate_succ, cons_append, ← ih, replicate_succ, cons_append, forward,
      Int.sub_self]
    exact Nat.zero_add _

theorem attempts_cons (a : Int) (path : List Int) (n : Nat) (more : List Nat) :
    attempts (a :: path) (n :: more) = replicate (n + 1) a ++ attempts path more := rfl

theorem forward_attempts {path : List Int} {more : List Nat} (h : more.length = path.length) :
    forward (attempts path more) = forward path := by
  induction path generalizing more with
  | nil => rfl
  | cons a path ih =>
    obtain ⟨_, more, rfl⟩ := exists_cons_of_length_eq_add_one h
    have hlength : more.length = path.length := Nat.succ.inj h
    have hrest := ih hlength
    rw [attempts_cons, forward_repeat]
    cases path with
    | nil =>
      rfl
    | cons c path =>
      obtain ⟨_, more, rfl⟩ := exists_cons_of_length_eq_add_one hlength
      rw [attempts_cons, replicate_succ, cons_append] at hrest ⊢
      rw [forward, hrest, forward]

theorem mem_attempts {path : List Int} {more : List Nat} (h : more.length = path.length) (r : Int) :
    r ∈ attempts path more ↔ r ∈ path := by
  induction path generalizing more with
  | nil => rfl
  | cons a path ih =>
    obtain ⟨_, more, rfl⟩ := exists_cons_of_length_eq_add_one h
    rw [attempts_cons, mem_append, ih (Nat.succ.inj h), mem_replicate, mem_cons]
    simp

theorem span_congr {l l' : List Int} (h : ∀ r, r ∈ l ↔ r ∈ l') : span l = span l' := by
  have hmax : l.max? = l'.max? := by
    apply ext
    intro a
    rw [max?_eq_some_iff, max?_eq_some_iff]
    simp [h]
  have hmin : l.min? = l'.min? := by
    apply ext
    intro a
    rw [min?_eq_some_iff, min?_eq_some_iff]
    simp [h]
  rw [span, span, hmax, hmin]

def drainAll (path : List Int) : List Nat := path.map fun _ => u32Max

theorem takes_drainAll (last : Int) (path : List Int) :
    takes ⟨u32Max, 1⟩ ⟨0, last⟩ (attempts path (drainAll path)) = forward (last :: path) := by
  induction path generalizing last with
  | nil => rfl
  | cons now path ih =>
    have hgain : min (0 + elapsed ⟨0, last⟩ now * 1) u32Max =
        min (now - last).toNat u32Max := by
      rw [Nat.zero_add, Nat.mul_one, elapsed, min_assoc, min_self]
    have hdrain : takes ⟨u32Max, 1⟩ ⟨0, last⟩ (replicate (u32Max + 1) now ++
        attempts path (drainAll path)) = _ :=
      takes_drain le_rfl (Nat.zero_le _) _ ((min_le_right _ _).trans (Nat.le_succ _))
    rw [ih] at hdrain
    exact hdrain.trans (congrArg (· + _) hgain)

theorem takes_bounded_iff_forward_le_span (path : List Int) :
    (∀ (config : TokenBucketConfig) (b : TokenBucket) (more : List Nat),
      config.burst ≤ u32Max → config.refillPerSec ≤ u32Max → b.Within config →
      more.length = path.length → takes config b (attempts path more) ≤
        config.burst + config.refillPerSec * span (attempts path more)) ↔
    forward path ≤ span path := by
  constructor
  · intro h
    cases path with
    | nil => exact Nat.zero_le _
    | cons now path =>
      have hmore : (drainAll (now :: path)).length = (now :: path).length := length_map _
      have hbound := h ⟨u32Max, 1⟩ ⟨u32Max, now⟩ _ le_rfl (by decide) le_rfl hmore
      have hdrain : takes ⟨u32Max, 1⟩ ⟨u32Max, now⟩ (replicate (u32Max + 1) now ++
          attempts path (drainAll path)) = _ :=
        takes_drain le_rfl le_rfl _ ((min_le_right _ _).trans (Nat.le_succ _))
      have hfull : min (u32Max + elapsed ⟨u32Max, now⟩ now * 1) u32Max = u32Max :=
        min_eq_right (Nat.le_add_right _ _)
      rw [takes_drainAll] at hdrain
      have htotal := (hdrain.trans (congrArg (· + _) hfull)).symm.trans_le hbound
      rw [Nat.one_mul, span_congr (mem_attempts hmore)] at htotal
      exact Nat.le_of_add_le_add_left htotal
  · intro h config b more hburst _ hwithin hmore
    have hbound := takes_le_burst hburst hwithin (attempts path more)
    rw [forward_attempts hmore] at hbound
    rw [span_congr (mem_attempts hmore)]
    exact hbound.trans (Nat.add_le_add_left (Nat.mul_le_mul_left _ h) _)

theorem clock_back_and_forth_mints_twice :
    takes ⟨1, 1⟩ (new ⟨1, 1⟩ 0) [0, 1, 0, 1] = 3 ∧ span [0, 1, 0, 1] = 1 ∧
      ¬ 3 ≤ 1 + 1 * 1 := by
  decide

/-! ### Takes within a window -/

structure Spent (config : TokenBucketConfig) (clock : Int) (readings : List Int)
    (b : TokenBucket) : Prop where
  within : b.Within config
  recent : readings ≠ [] → b.lastRefillUnix ≤ clock
  paid : ∀ lo, 0 < readings.countP (lo ≤ ·) → lo ≤ b.lastRefillUnix ∧
    readings.countP (lo ≤ ·) + b.tokens ≤
      config.burst + config.refillPerSec * (b.lastRefillUnix - lo).toNat
  windows : ∀ lo hi, readings.countP (fun r => lo ≤ r ∧ r ≤ hi) ≤
    config.burst + config.refillPerSec * (hi - lo).toNat

theorem spent_nil (h : b.Within config) (clock : Int) : Spent config clock [] b :=
  ⟨h, fun hne => absurd rfl hne, by simp, by simp⟩

theorem Spent.advance {clock : Int} {readings : List Int} (h : Spent config clock readings b)
    (hclock : clock ≤ now) : Spent config now readings b :=
  { h with recent := fun hne => (h.recent hne).trans hclock }

theorem Spent.take {clock : Int} {readings : List Int} {taken : TokenBucket}
    (hburst : config.burst ≤ u32Max) (h : Spent config clock readings b) (hclock : clock ≤ now)
    (htake : b.tryTake config now = some taken) :
    Spent config now (readings ++ [now]) taken := by
  obtain ⟨hlast, _⟩ := (tryTake_eq_some hburst h.within).mp htake
  have hpaid {lo : Int} (hlo : lo ≤ now) : readings.countP (lo ≤ ·) + 1 + taken.tokens ≤
      config.burst + config.refillPerSec * (now - lo).toNat := by
    by_cases hnone : readings.countP (lo ≤ ·) = 0
    · omega
    · obtain ⟨hsince, hbefore⟩ := h.paid lo (Nat.pos_of_ne_zero hnone)
      have hnonempty : readings ≠ [] := by
        rintro rfl
        exact hnone rfl
      have hold := (h.recent hnonempty).trans hclock
      have hsplit : (now - lo).toNat =
          (b.lastRefillUnix - lo).toNat + (now - b.lastRefillUnix).toNat := by omega
      have helapsed : b.elapsed now * config.refillPerSec ≤
          config.refillPerSec * (now - b.lastRefillUnix).toNat := by
        rw [Nat.mul_comm]
        exact Nat.mul_le_mul_left _ (Nat.min_le_left _ _)
      rw [hsplit, Nat.mul_add]
      omega
  refine ⟨h.within.tryTake htake, fun _ => hlast.le, ?_, ?_⟩
  · intro lo hlo
    rw [countP_append, countP_singleton] at hlo ⊢
    rw [hlast]
    by_cases hnow : lo ≤ now
    · rw [if_pos (decide_eq_true hnow)]
      exact ⟨hnow, hpaid hnow⟩
    · rw [if_neg (by simpa using hnow), Nat.add_zero] at hlo
      have hsince := (h.paid lo hlo).1
      have hnonempty : readings ≠ [] := by
        rintro rfl
        cases hlo
      have hold := h.recent hnonempty
      omega
  · intro lo hi
    have hbefore := h.windows lo hi
    rw [countP_append, countP_singleton]
    split
    · next hin =>
      obtain ⟨hlo, _⟩ := of_decide_eq_true hin
      have hfewer : readings.countP (fun r => lo ≤ r ∧ r ≤ hi) ≤ readings.countP (lo ≤ ·) :=
        countP_mono_left fun r _ hr => by
          simp only [decide_eq_true_eq] at hr ⊢
          exact hr.1
      have hwindow := hpaid hlo
      have hlonger : config.refillPerSec * (now - lo).toNat ≤
          config.refillPerSec * (hi - lo).toNat := Nat.mul_le_mul_left _ (by omega)
      omega
    · exact hbefore

/-! ### Buckets that are never forgotten -/

section Partitions
variable {κ : Type} [DecidableEq κ]

def takeUnlimited (buckets : κ → Option TokenBucket) (key : κ) (config : TokenBucketConfig)
    (now : Int) : Option TokenBucket :=
  ((buckets key).getD (TokenBucket.new config now)).tryTake config now

def PartitionDebit.bucket : PartitionDebit κ → TokenBucket
  | .update _ bucket | .insert _ bucket _ => bucket

def unlimitedAfter (config : TokenBucketConfig) (grants : List (κ × Int)) : κ → Option TokenBucket :=
  grants.foldl (fun buckets g => Function.update buckets g.1 (takeUnlimited buckets g.1 config g.2))
    fun _ => none

def readingsOf (grants : List (κ × Int)) (key : κ) : List Int :=
  (grants.filter fun g => g.1 = key).map Prod.snd

def Suffices (buckets : Table κ TokenBucket) (key : κ) (config : TokenBucketConfig)
    (tracked : Nat) (now : Int) (order : List κ) : Prop :=
  buckets.lookup key ≠ none ∨ buckets.size < tracked ∨ findIdle buckets config now order ≠ none

structure Meter (config : TokenBucketConfig) (clock : Int) (grants : List (κ × Int))
    (limited : Table κ TokenBucket) : Prop where
  same : ∀ key bucket, limited.lookup key = some bucket →
    unlimitedAfter config grants key = some bucket
  forgotten : ∀ key bucket, limited.lookup key = none →
    unlimitedAfter config grants key = some bucket → bucket.isIdle config clock = true
  spent : ∀ key bucket, unlimitedAfter config grants key = some bucket →
    readingsOf grants key ≠ [] ∧ Spent config clock (readingsOf grants key) bucket
  unused : ∀ key, unlimitedAfter config grants key = none → readingsOf grants key = []

def Decides (limited : Table κ TokenBucket) (grants : List (κ × Int)) (key : κ)
    (config : TokenBucketConfig) (tracked : Nat) (now : Int) (order : List κ) : Prop :=
  (Suffices limited key config tracked now order →
    (planPartitionToken limited key config tracked now order).map bucket =
      takeUnlimited (unlimitedAfter config grants) key config now) ∧
  (¬ Suffices limited key config tracked now order →
    planPartitionToken limited key config tracked now order = none)

variable {clock : Int} {grants : List (κ × Int)} {limited : Table κ TokenBucket} {key : κ}
  {tracked : Nat} {order : List κ}

theorem readingsOf_append (grants : List (κ × Int)) (key other : κ) (now : Int) :
    readingsOf (grants ++ [(key, now)]) other =
      readingsOf grants other ++ if other = key then [now] else [] := by
  by_cases h : other = key <;> simp [readingsOf, filter_append, h, Ne.symm]

namespace Meter

theorem init (config : TokenBucketConfig) (clock : Int) :
    Meter config clock [] (∅ : Table κ TokenBucket) :=
  ⟨nofun, nofun, nofun, fun _ _ => rfl⟩

theorem advance (hburst : config.burst ≤ u32Max) (h : Meter config clock grants limited)
    (hclock : clock ≤ now) : Meter config now grants limited := by
  refine { h with forgotten := ?_, spent := ?_ }
  · intro key bucket hnone hfull
    obtain ⟨hne, hspent⟩ := h.spent key bucket hfull
    have hidle := h.forgotten key bucket hnone hfull
    rw [isIdle_iff hburst hspent.within] at hidle ⊢
    have hlonger : bucket.elapsed clock ≤ bucket.elapsed now := by
      simp only [elapsed]
      omega
    exact hidle.trans (Nat.add_le_add_left (Nat.mul_le_mul_right _ hlonger) _)
  · intro key bucket hfull
    obtain ⟨hne, hspent⟩ := h.spent key bucket hfull
    exact ⟨hne, hspent.advance hclock⟩

theorem windows (h : Meter config clock grants limited) (key : κ) (lo hi : Int) :
    grants.countP (fun g => g.1 = key ∧ lo ≤ g.2 ∧ g.2 ≤ hi) ≤
      config.burst + config.refillPerSec * (hi - lo).toNat := by
  have hcount : grants.countP (fun g => g.1 = key ∧ lo ≤ g.2 ∧ g.2 ≤ hi) =
      (readingsOf grants key).countP (fun r => lo ≤ r ∧ r ≤ hi) := by
    rw [readingsOf, countP_map, countP_filter]
    exact countP_congr fun g _ => by simp [and_comm]
  rw [hcount]
  cases hfull : unlimitedAfter config grants key with
  | none => simp [h.unused key hfull]
  | some bucket => exact (h.spent key bucket hfull).2.windows lo hi

end Meter

theorem planned {debit : PartitionDebit κ}
    (h : planPartitionToken limited key config tracked now order = some debit) :
    Suffices limited key config tracked now order ∧ ∃ gone : Option κ,
      (∀ other, gone = some other → ∃ bucket, limited.lookup other = some bucket ∧
        bucket.isIdle config now = true) ∧
      ∀ other, (debit.commit limited).lookup other =
        if other = key then some debit.bucket
        else if gone = some other then none else limited.lookup other := by
  unfold planPartitionToken at h
  split at h
  · next bucket hlookup =>
    obtain ⟨taken, -, rfl⟩ := map_eq_some_iff.mp h
    refine ⟨.inl (by simp [hlookup]), none, nofun, fun other => ?_⟩
    rw [commit, Table.lookup_insert_eq]
    rfl
  · next hlookup =>
    by_cases hfull : tracked ≤ limited.size
    · simp only [hfull, if_true, true_and] at h
      split at h
      · cases h
      · next hidle =>
        obtain ⟨taken, -, rfl⟩ := map_eq_some_iff.mp h
        obtain ⟨gone, hgone⟩ := ne_none_iff_exists'.mp hidle
        refine ⟨.inr (.inr hidle), some gone, ?_, fun other => ?_⟩
        · rintro other ⟨⟩
          have hany := find?_some hgone
          exact (any_eq_true _ _).mp hany
        · rw [hgone, commit, Table.lookup_insert_eq, Table.lookup_erase_eq]
          simp [eq_comm, bucket]
    · simp only [hfull, if_false, false_and] at h
      obtain ⟨taken, -, rfl⟩ := map_eq_some_iff.mp h
      refine ⟨.inr (.inl (Nat.lt_of_not_le hfull)), none, nofun, fun other => ?_⟩
      rw [commit, Table.lookup_insert_eq]
      rfl

section Plan

variable (hburst : config.burst ≤ u32Max) (h : Meter config now grants limited)
include hburst h

theorem Meter.plan (hsuffices : Suffices limited key config tracked now order) :
    (planPartitionToken limited key config tracked now order).map bucket =
      takeUnlimited (unlimitedAfter config grants) key config now := by
  cases hlookup : limited.lookup key with
  | some bucket =>
    simp only [planPartitionToken, hlookup, takeUnlimited, h.same key bucket hlookup,
      getD_some, Option.map_map]
    exact Option.map_id'
  | none =>
    have hroom : ¬ (tracked ≤ limited.size ∧
        (if tracked ≤ limited.size then findIdle limited config now order else none) = none) := by
      rintro ⟨hfull, hnone⟩
      rw [if_pos hfull] at hnone
      rcases hsuffices with htracked | hroom | hidle
      · exact htracked hlookup
      · omega
      · exact hidle hnone
    have hnew : takeUnlimited (unlimitedAfter config grants) key config now =
        (new config now).tryTake config now := by
      cases hfull : unlimitedAfter config grants key with
      | none => rw [takeUnlimited, hfull, getD_none]
      | some bucket =>
        rw [takeUnlimited, hfull, getD_some]
        exact idle_tryTake hburst (h.spent key bucket hfull).2.within
          (h.forgotten key bucket hlookup hfull)
    rw [hnew]
    simp only [planPartitionToken, hlookup, if_neg hroom, Option.map_map]
    exact Option.map_id'

theorem Meter.decides (key : κ) (tracked : Nat) (order : List κ) :
    Decides limited grants key config tracked now order := by
  refine ⟨h.plan hburst, fun hcrowded => ?_⟩
  by_contra hplan
  obtain ⟨_, hdebit⟩ := ne_none_iff_exists'.mp hplan
  exact hcrowded (planned hdebit).1

theorem Meter.commit {debit : PartitionDebit κ}
    (hplan : planPartitionToken limited key config tracked now order = some debit) :
    Meter config now (grants ++ [(key, now)]) (debit.commit limited) := by
  obtain ⟨hsuffices, _, hgone, hlookup⟩ := planned hplan
  have htake := h.plan hburst hsuffices
  rw [hplan, map_some] at htake
  have hafter : unlimitedAfter config (grants ++ [(key, now)]) =
      Function.update (unlimitedAfter config grants) key (some debit.bucket) := by
    rw [unlimitedAfter, foldl_concat, ← unlimitedAfter, ← htake]
  have hother {other : κ} (hne : other ≠ key) :
      unlimitedAfter config (grants ++ [(key, now)]) other = unlimitedAfter config grants other ∧
      readingsOf (grants ++ [(key, now)]) other = readingsOf grants other := by
    rw [hafter, Function.update_of_ne hne, readingsOf_append, if_neg hne, append_nil]
    exact ⟨rfl, rfl⟩
  have hself : unlimitedAfter config (grants ++ [(key, now)]) key = some debit.bucket ∧
      readingsOf (grants ++ [(key, now)]) key = readingsOf grants key ++ [now] := by
    rw [hafter, Function.update_self, readingsOf_append, if_pos rfl]
    exact ⟨rfl, rfl⟩
  have hspent : Spent config now (readingsOf grants key ++ [now]) debit.bucket := by
    rw [takeUnlimited] at htake
    cases hfull : unlimitedAfter config grants key with
    | none =>
      rw [hfull, getD_none] at htake
      rw [h.unused key hfull]
      exact (spent_nil (within_new config now) now).take hburst le_rfl htake.symm
    | some bucket =>
      rw [hfull, getD_some] at htake
      exact (h.spent key bucket hfull).2.take hburst le_rfl htake.symm
  constructor
  · intro other bucket hbucket
    rw [hlookup] at hbucket
    split at hbucket
    · next heq =>
      subst heq
      rw [hself.1, hbucket]
    · next hne =>
      split at hbucket
      · cases hbucket
      · rw [(hother hne).1]
        exact h.same other bucket hbucket
  · intro other bucket hnone hbucket
    rw [hlookup] at hnone
    split at hnone
    · cases hnone
    · next hne =>
      rw [(hother hne).1] at hbucket
      split at hnone
      · next hevicted =>
        obtain ⟨idle, hidle, hfull⟩ := hgone other hevicted
        rw [h.same other idle hidle] at hbucket
        cases hbucket
        exact hfull
      · exact h.forgotten other bucket hnone hbucket
  · intro other bucket hbucket
    by_cases hne : other = key
    · subst hne
      rw [hself.1, Option.some.injEq] at hbucket
      subst hbucket
      rw [hself.2]
      exact ⟨by simp, hspent⟩
    · rw [(hother hne).1] at hbucket
      rw [(hother hne).2]
      exact h.spent other bucket hbucket
  · intro other hnone
    by_cases hne : other = key
    · subst hne
      rw [hself.1] at hnone
      cases hnone
    · rw [(hother hne).1] at hnone
      rw [(hother hne).2]
      exact h.unused other hnone

end Plan

end Partitions

/-! ### Runs -/

def issueOf : Call × Reply → Option (Jkt × SourcePartition × Int)
  | (.issue jkt source _ now _, .issue ⟨.ok _, _⟩) => some (jkt, source, now)
  | _ => none

def issues (h : History) : List (Jkt × SourcePartition × Int) := h.filterMap issueOf

theorem issues_snoc (h : History) (e : Call × Reply) :
    issues (h ++ [e]) = issues h ++ (issueOf e).toList := by
  cases he : issueOf e <;> simp [issues, he]

def globalAfter (config : TokenBucketConfig) (readings : List Int) : TokenBucket :=
  readings.foldl (fun b now => (b.tryTake config now).getD b) (TokenBucket.new config 0)

def Config.RatesFit (config : Config) : Prop :=
  config.globalRate.burst ≤ u32Max ∧ config.perJktRate.burst ≤ u32Max ∧
    config.perSourceRate.burst ≤ u32Max

structure Metered (config : Config) (clock : Int) (issued : List (Jkt × SourcePartition × Int))
    (t : ChallengeTable) : Prop where
  config_eq : t.config = config
  global_eq : t.globalBucket = globalAfter config.globalRate (issued.map (·.2.2))
  global : Spent config.globalRate clock (issued.map (·.2.2)) t.globalBucket
  jkts : Meter config.perJktRate clock (issued.map fun g => (g.1, g.2.2)) t.jktBuckets
  sources : Meter config.perSourceRate clock (issued.map Prod.snd) t.sourceBuckets

namespace Metered

variable {config : Config} {clock now : Int} {issued : List (Jkt × SourcePartition × Int)}
  {t s : ChallengeTable}

theorem advance (hfit : config.RatesFit) (h : Metered config clock issued t)
    (hclock : clock ≤ now) : Metered config now issued t where
  config_eq := h.config_eq
  global_eq := h.global_eq
  global := h.global.advance hclock
  jkts := h.jkts.advance hfit.2.1 hclock
  sources := h.sources.advance hfit.2.2 hclock

theorem of_frozen (h : Metered config clock issued t) (hfrozen : s.frozen = t.frozen) :
    Metered config clock issued s := by
  simp only [frozen, Prod.mk.injEq] at hfrozen
  obtain ⟨hconfig, -, hglobal, hjkts, hsources⟩ := hfrozen
  exact ⟨hconfig ▸ h.config_eq, hglobal ▸ h.global_eq, hglobal ▸ h.global, hjkts ▸ h.jkts,
    hsources ▸ h.sources⟩

theorem commitIssue {jkt : Jkt} {source : SourcePartition} {env : IssueEnv} {plan : IssuePlan}
    (hfit : config.RatesFit) (h : Metered config now issued t)
    (hpassed : Passed t jkt source now env plan) (suffix : Suffix) (record : Record) :
    Metered config now (issued ++ [(jkt, source, now)]) (t.commitIssue plan suffix record) := by
  have hglobal := hpassed.global_taken
  have hjkt := hpassed.jkt_planned
  have hsource := hpassed.source_planned
  rw [h.config_eq] at hglobal hjkt hsource
  refine ⟨h.config_eq, ?_, ?_, ?_, ?_⟩ <;> rw [map_append]
  · rw [h.global_eq] at hglobal
    simp only [globalAfter, map_singleton, foldl_concat]
    rw [← globalAfter, hglobal]
    rfl
  · exact h.global.take hfit.1 le_rfl hglobal
  · exact h.jkts.commit hfit.2.1 hjkt
  · exact h.sources.commit hfit.2.2 hsource

theorem step {call : Call} {h : History} (hfit : config.RatesFit)
    (hmetered : Metered config clock (issues h) t) (hclock : clock ≤ call.clock) :
    Metered config call.clock (issues (h ++ [(call, (step t call).2)])) (step t call).1 := by
  have hnow := hmetered.advance hfit hclock
  rw [issues_snoc]
  cases call with
  | issue jkt source generation now env =>
    have hswept := hnow.of_frozen (Swept.purgeExpired now t).frozen_eq
    rcases issue_cases t jkt source generation now env with
      ⟨_, drawn, hissue⟩ | ⟨_, suffix, drawn, _, hissue, hplan, -⟩
    · simp only [Challenge.step, hissue, issueOf, toList_none, append_nil]
      exact hswept
    · simp only [Challenge.step, hissue, issueOf]
      exact hswept.commitIssue hfit (planIssue_eq_ok.mp hplan) suffix _
  | consume challenge jkt generation now =>
    simp only [Challenge.step, issueOf, toList_none, append_nil]
    rcases consume_touches t challenge jkt generation now with hsame | ⟨-, suffix, -, -, hremoved⟩
    · rw [hsame]
      exact hnow
    · rw [hremoved]
      apply hnow.of_frozen
      unfold removeRecord
      split <;> rfl

theorem run (hfit : config.clamp.RatesFit) (entropy : Option InstanceId) (calls : List Call)
    (hsorted : (calls.map Call.clock).Pairwise (· ≤ ·)) (hclock : ∀ c ∈ calls, c.clock ≤ clock) :
    Metered config.clamp clock (issues (events Challenge.step (withConfig config entropy) calls))
      (final Challenge.step (withConfig config entropy) calls) := by
  induction calls using reverseRecOn generalizing clock with
  | nil =>
    exact ⟨rfl, rfl, spent_nil (within_new _ 0) clock, Meter.init _ clock,
      Meter.init _ clock⟩
  | append_singleton past call ih =>
    rw [map_append, pairwise_append] at hsorted
    have hpast : Metered config.clamp call.clock _ _ := ih hsorted.1 fun c hc =>
      hsorted.2.2 _ (mem_map_of_mem hc) _ (by simp)
    rw [events_append, final_append]
    exact (hpast.step hfit le_rfl).advance hfit (hclock call (by simp))

end Metered

theorem bounded_tracking_unobservable (config : Config) (entropy : Option InstanceId)
    (calls : List Call) (hfit : config.RatesFit)
    (hclock : (calls.map Call.clock).Pairwise (· ≤ ·)) :
    (∀ past jkt source generation now env rest,
      calls = past ++ .issue jkt source generation now env :: rest →
      let t := (final step (withConfig config entropy) past).purgeExpired now
      let issued := issues (events step (withConfig config entropy) past)
      t.globalBucket.tryTake config.globalRate now =
        (globalAfter config.globalRate (issued.map (·.2.2))).tryTake config.globalRate now ∧
      Decides t.sourceBuckets (issued.map Prod.snd) source config.perSourceRate
        config.clamp.trackedPartitions now env.sourceOrder ∧
      Decides t.jktBuckets (issued.map fun g => (g.1, g.2.2)) jkt config.perJktRate
        config.clamp.trackedPartitions now env.jktOrder) ∧
    let issued := issues (events step (withConfig config entropy) calls)
    ∀ lo hi, issued.countP (fun g => lo ≤ g.2.2 ∧ g.2.2 ≤ hi) ≤
        config.globalRate.burst + config.globalRate.refillPerSec * (hi - lo).toNat ∧
      (∀ jkt, issued.countP (fun g => g.1 = jkt ∧ lo ≤ g.2.2 ∧ g.2.2 ≤ hi) ≤
        config.perJktRate.burst + config.perJktRate.refillPerSec * (hi - lo).toNat) ∧
      ∀ source, issued.countP (fun g => g.2.1 = source ∧ lo ≤ g.2.2 ∧ g.2.2 ≤ hi) ≤
        config.perSourceRate.burst + config.perSourceRate.refillPerSec * (hi - lo).toNat := by
  constructor
  · rintro past jkt source generation now env rest rfl
    rw [map_append, pairwise_append] at hclock
    have hpast : Metered config.clamp now _ _ := .run hfit entropy past hclock.1 fun c hc =>
      hclock.2.2 _ (mem_map_of_mem hc) _ (mem_cons_self ..)
    have hswept := hpast.of_frozen (Swept.purgeExpired now _).frozen_eq
    exact ⟨congrArg (·.tryTake config.globalRate now) hswept.global_eq,
      hswept.sources.decides hfit.2.2 .., hswept.jkts.decides hfit.2.1 ..⟩
  · intro issued lo hi
    obtain ⟨clock, hlast⟩ := (finite_toSet (calls.map Call.clock)).bddAbove
    have hrun := Metered.run hfit entropy calls hclock fun c hc => hlast (mem_map_of_mem hc)
    refine ⟨?_, fun jkt => ?_, fun source => ?_⟩
    · have hwindow := hrun.global.windows lo hi
      rw [countP_map] at hwindow
      exact hwindow
    · have hwindow := hrun.jkts.windows jkt lo hi
      rw [countP_map] at hwindow
      exact hwindow
    · have hwindow := hrun.sources.windows source lo hi
      rw [countP_map] at hwindow
      exact hwindow

def narrowConfig : Config := ⟨8, 1, 60, ⟨100, 1⟩, ⟨8, 1⟩, ⟨8, 1⟩, 1⟩

/-- The table tracks one partition, so the second issue evicts the buckets of the first. -/
def evictingCalls : List Call :=
  [nthIssue 0 0,
    .issue (nthKey 1) (nthKey 1) 7 10 ⟨none, [some (nthSuffix 1)], true, [nthKey 0], [nthKey 0]⟩]

theorem bounded_tracking_evicts :
    let t := withConfig narrowConfig (some (.fill 16 9))
    narrowConfig.RatesFit ∧ (issues (events step t evictingCalls)).length = 2 ∧
    (final step t evictingCalls).jktBuckets.lookup (nthKey 0) = none ∧
    (final step t evictingCalls).sourceBuckets.lookup (nthKey 0) = none ∧
    (issues (events step t evictingCalls)).countP (fun g => g.1 = nthKey 0 ∧ 0 ≤ g.2.2 ∧ g.2.2 ≤ 10) ≤
      18 := by
  intro t
  have hfit : narrowConfig.RatesFit := ⟨by decide, by decide, by decide⟩
  have hbound := bounded_tracking_unobservable narrowConfig (some (.fill 16 9)) evictingCalls hfit
    (by decide)
  exact ⟨hfit, by decide, by decide, by decide, (hbound.2 0 10).2.1 (nthKey 0)⟩

end Basil.Challenge
