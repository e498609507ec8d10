import Basil.Lib.Bytes
import Basil.Lib.Check
import Basil.Lib.Machine
import Basil.Lib.Tally

/-!
# The freshness-challenge table (`core/challenge.rs`)

Entropy, allocation failure and the iteration order of the hash maps are inputs of the modelled
functions.
-/

namespace Basil.Challenge

def expiryCleanupLimit : Nat := 64
def challengeLen : Nat := 32
def instanceIdLen : Nat := 16
def challengeSuffixLen : Nat := challengeLen - instanceIdLen
def maxChallengeTtlSecs : Int := 60
def maxOutstandingPerJkt : Nat := 8
def defaultGlobalCapacity : Nat := 16384

abbrev InstanceId := FixedBytes instanceIdLen
abbrev Suffix := FixedBytes challengeSuffixLen
abbrev Jkt := FixedBytes 32
abbrev SourcePartition := FixedBytes 32

/-! ### Token buckets -/

structure TokenBucketConfig where
  burst : Nat
  refillPerSec : Nat
  deriving DecidableEq

structure TokenBucket where
  tokens : Nat
  lastRefillUnix : Int
  deriving DecidableEq

namespace TokenBucket

def new (config : TokenBucketConfig) (now : Int) : TokenBucket := ⟨config.burst, now⟩

def elapsedU32 (elapsed : Int) : Nat := min elapsed.toNat u32Max

def refill (b : TokenBucket) (config : TokenBucketConfig) (now : Int) : TokenBucket :=
  -- a clock that moved backwards re-anchors without refilling
  if now < b.lastRefillUnix then { b with lastRefillUnix := now }
  else
    let elapsed := satSubI64 now b.lastRefillUnix
    if elapsed = 0 then b
    else
      let gain := satMulU32 (elapsedU32 elapsed) config.refillPerSec
      { tokens := min (satAddU32 b.tokens gain) config.burst, lastRefillUnix := now }

def tryTake (b : TokenBucket) (config : TokenBucketConfig) (now : Int) : Option TokenBucket :=
  let b := b.refill config now
  if b.tokens = 0 then none else some { b with tokens := b.tokens - 1 }

def isIdle (b : TokenBucket) (config : TokenBucketConfig) (now : Int) : Bool :=
  config.burst ≤ (b.refill config now).tokens

end TokenBucket

/-! ### Configuration and state -/

structure Config where
  globalCapacity : Nat
  perJktCapacity : Nat
  ttlSecs : Int
  globalRate : TokenBucketConfig
  perJktRate : TokenBucketConfig
  perSourceRate : TokenBucketConfig
  trackedPartitions : Nat

def Config.default : Config where
  globalCapacity := defaultGlobalCapacity
  perJktCapacity := maxOutstandingPerJkt
  ttlSecs := maxChallengeTtlSecs
  globalRate := ⟨512, 128⟩
  perJktRate := ⟨8, 4⟩
  perSourceRate := ⟨64, 16⟩
  trackedPartitions := defaultGlobalCapacity

def Config.clamp (config : Config) : Config :=
  { config with
    globalCapacity := max config.globalCapacity 1
    perJktCapacity := max 1 (min config.perJktCapacity maxOutstandingPerJkt)
    ttlSecs := max 1 (min config.ttlSecs maxChallengeTtlSecs)
    trackedPartitions := max config.trackedPartitions 1 }

structure Record where
  jkt : Jkt
  generation : Nat
  expiresAtUnix : Int
  deriving DecidableEq

structure Issued where
  challenge : Bytes
  expiresAtUnix : Int
  deriving DecidableEq

inductive IssueDecline where
  | rateLimited
  | capacityExhausted
  | entropyUnavailable
  deriving DecidableEq

inductive ConsumeDenied where
  | unknown
  | foreignInstance
  | jktMismatch
  | generationMismatch
  | expired
  deriving DecidableEq

structure ChallengeTable where
  config : Config
  instanceId : Option InstanceId
  records : Table Suffix Record
  outstandingPerJkt : Table Jkt Nat
  globalBucket : TokenBucket
  jktBuckets : Table Jkt TokenBucket
  sourceBuckets : Table SourcePartition TokenBucket
  expiryQueue : List (Suffix × Int)

def withConfig (config : Config) (entropy : Option InstanceId) : ChallengeTable where
  config := config.clamp
  instanceId := entropy
  records := ∅
  outstandingPerJkt := ∅
  globalBucket := TokenBucket.new config.clamp.globalRate 0
  jktBuckets := ∅
  sourceBuckets := ∅
  expiryQueue := []

namespace ChallengeTable

def outstanding (t : ChallengeTable) : Nat := t.records.size

/-! ### Removal and the expiry sweep -/

abbrev releaseOutstanding (counts : Table Jkt Nat) (jkt : Jkt) : Table Jkt Nat :=
  counts.decrement jkt

def removeRecord (t : ChallengeTable) (suffix : Suffix) : ChallengeTable :=
  match t.records.lookup suffix with
  | none => t
  | some record =>
      { t with
        records := t.records.erase suffix
        outstandingPerJkt := releaseOutstanding t.outstandingPerJkt record.jkt }

/-- One round of the sweep: the queue's front entry is dropped with its record
when that has expired, requeued when it has not, and dropped alone when it no
longer describes a record. -/
def purgeFront (t : ChallengeTable) (now : Int) : ChallengeTable :=
  match t.expiryQueue with
  | [] => t
  | (suffix, queuedExpiry) :: rest =>
      let t := { t with expiryQueue := rest }
      match t.records.lookup suffix with
      | none => t
      | some record =>
          if record.expiresAtUnix = queuedExpiry then
            if record.expiresAtUnix < now then t.removeRecord suffix
            else { t with expiryQueue := rest ++ [(suffix, queuedExpiry)] }
          else t

def purgeRounds (t : ChallengeTable) (now : Int) : Nat → ChallengeTable
  | 0 => t
  | n + 1 => purgeRounds (t.purgeFront now) now n

def purgeExpired (t : ChallengeTable) (now : Int) : ChallengeTable :=
  t.purgeRounds now (min t.expiryQueue.length expiryCleanupLimit)

end ChallengeTable

/-! ### Planned rate-limit debits -/

inductive PartitionDebit (κ : Type) where
  | update (key : κ) (bucket : TokenBucket)
  | insert (key : κ) (bucket : TokenBucket) (evict : Option κ)

variable {κ : Type} [DecidableEq κ]

def PartitionDebit.commit (buckets : Table κ TokenBucket) : PartitionDebit κ → Table κ TokenBucket
  | .update key bucket => buckets.insert key bucket
  | .insert key bucket none => buckets.insert key bucket
  | .insert key bucket (some evict) => (buckets.erase evict).insert key bucket

def findIdle (buckets : Table κ TokenBucket) (config : TokenBucketConfig) (now : Int)
    (order : List κ) : Option κ :=
  order.find? fun key => (buckets.lookup key).any fun bucket => bucket.isIdle config now

/-- `plan_partition_token`: a debit for `key`, without touching the map. -/
def planPartitionToken (buckets : Table κ TokenBucket) (key : κ) (config : TokenBucketConfig)
    (trackedPartitions : Nat) (now : Int) (order : List κ) : Option (PartitionDebit κ) :=
  match buckets.lookup key with
  | some bucket => (bucket.tryTake config now).map fun taken => .update key taken
  | none =>
      let full := trackedPartitions ≤ buckets.size
      let evict := if full then findIdle buckets config now order else none
      if full ∧ evict = none then none
      else
        ((TokenBucket.new config now).tryTake config now).map fun taken => .insert key taken evict

/-! ### Issuance -/

/-- What one `issue` call reads from its surroundings: the CSPRNG draw for a
missing instance ID, the draws for the suffix, whether the map reservations
succeed, and the iteration orders of the two bucket maps. -/
structure IssueEnv where
  instanceDraw : Option InstanceId
  suffixDraws : List (Option Suffix)
  reserveOk : Bool
  sourceOrder : List SourcePartition
  jktOrder : List Jkt

/-- `unused_suffix`, with `attempts` draws left: the suffix found, and every
suffix that was drawn on the way. An exhausted draw list is a CSPRNG failure. -/
def drawSuffix (records : Table Suffix Record) :
    Nat → List (Option Suffix) → Option Suffix × List Suffix
  | 0, _ => (none, [])
  | _ + 1, [] => (none, [])
  | _ + 1, none :: _ => (none, [])
  | attempts + 1, some suffix :: draws =>
      match records.lookup suffix with
      | none => (some suffix, [suffix])
      | some _ =>
          let rest := drawSuffix records attempts draws
          (rest.1, suffix :: rest.2)

def unusedSuffix (records : Table Suffix Record) (draws : List (Option Suffix)) :
    Option Suffix × List Suffix :=
  drawSuffix records 4 draws

structure IssuePlan where
  instanceId : InstanceId
  outstanding : Nat
  globalBucket : TokenBucket
  sourceDebit : PartitionDebit SourcePartition
  jktDebit : PartitionDebit Jkt

namespace ChallengeTable

def planIssue (t : ChallengeTable) (jkt : Jkt) (source : SourcePartition) (now : Int)
    (env : IssueEnv) : Except IssueDecline IssuePlan := do
  let instanceId ← orErr (t.instanceId.or env.instanceDraw) .entropyUnavailable
  ensure (t.records.size < t.config.globalCapacity) .capacityExhausted
  let outstanding := (t.outstandingPerJkt.lookup jkt).getD 0
  ensure (outstanding < t.config.perJktCapacity) .capacityExhausted
  let globalBucket ← orErr (t.globalBucket.tryTake t.config.globalRate now) .rateLimited
  let sourceDebit ← orErr (planPartitionToken t.sourceBuckets source t.config.perSourceRate
    t.config.trackedPartitions now env.sourceOrder) .rateLimited
  let jktDebit ← orErr (planPartitionToken t.jktBuckets jkt t.config.perJktRate
    t.config.trackedPartitions now env.jktOrder) .rateLimited
  return { instanceId, outstanding, globalBucket, sourceDebit, jktDebit }

def commitIssue (t : ChallengeTable) (plan : IssuePlan) (suffix : Suffix) (record : Record) :
    ChallengeTable :=
  { t with
    instanceId := some plan.instanceId
    globalBucket := plan.globalBucket
    sourceBuckets := plan.sourceDebit.commit t.sourceBuckets
    jktBuckets := plan.jktDebit.commit t.jktBuckets
    records := t.records.insert suffix record
    expiryQueue := t.expiryQueue ++ [(suffix, record.expiresAtUnix)]
    outstandingPerJkt := t.outstandingPerJkt.insert record.jkt (plan.outstanding + 1) }

/-- The result of one `issue` call, and the suffixes it drew. -/
structure IssueReply where
  result : Except IssueDecline Issued
  drawn : List Suffix

/-- `ChallengeTable::issue`. A declined issue keeps only the sweep's effect. -/
def issue (t : ChallengeTable) (jkt : Jkt) (source : SourcePartition) (generation : Nat)
    (now : Int) (env : IssueEnv) : ChallengeTable × IssueReply :=
  let t := t.purgeExpired now
  match t.planIssue jkt source now env with
  | .error decline => (t, ⟨.error decline, []⟩)
  | .ok plan =>
      match unusedSuffix t.records env.suffixDraws with
      | (none, drawn) => (t, ⟨.error .entropyUnavailable, drawn⟩)
      | (some suffix, drawn) =>
          if env.reserveOk then
            let expiresAtUnix := satAddI64 now t.config.ttlSecs
            (t.commitIssue plan suffix ⟨jkt, generation, expiresAtUnix⟩,
              ⟨.ok ⟨plan.instanceId.bytes ++ suffix.bytes, expiresAtUnix⟩, drawn⟩)
          else (t, ⟨.error .capacityExhausted, drawn⟩)

/-! ### Consumption -/

/-- `split_at_checked` at the instance ID, and the suffix as an array. -/
def splitChallenge (challenge : Bytes) : Option (Bytes × Suffix) :=
  if instanceIdLen ≤ challenge.length then
    (FixedBytes.ofBytes? challengeSuffixLen (challenge.drop instanceIdLen)).map fun suffix =>
      (challenge.take instanceIdLen, suffix)
  else none

def consume (t : ChallengeTable) (challenge : Bytes) (jkt : Jkt) (generation : Nat) (now : Int) :
    ChallengeTable × Except ConsumeDenied Unit :=
  match splitChallenge challenge with
  | none => (t, .error .unknown)
  | some (idPart, suffix) =>
      if t.instanceId.map (·.bytes) = some idPart then
        match t.records.lookup suffix with
        | none => (t, .error .unknown)
        | some record =>
            if record.expiresAtUnix < now then (t.removeRecord suffix, .error .expired)
            -- the record stays for the rightful holder of the proof key
            else if record.jkt ≠ jkt then (t, .error .jktMismatch)
            else if record.generation ≠ generation then
              (t.removeRecord suffix, .error .generationMismatch)
            else (t.removeRecord suffix, .ok ())
      else (t, .error .foreignInstance)

end ChallengeTable

end Basil.Challenge
