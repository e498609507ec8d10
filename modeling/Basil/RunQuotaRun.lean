import Basil.ChallengeSource
import Basil.ChallengeSpec

/-!
# The per-run quota across listeners (`service/broker.rs`, `service/invocation.rs`,
`transport/grpc_server.rs`)

Every listener serves its own `BrokerGrpc`, which owns its own challenge table and its own quota
table. Listeners that a reload does not change keep running, the others start with new tables.
-/

namespace Basil.RunQuota

open RunQuotaTable Trace List Challenge ChallengeSource Connection

/-- `fresh` are the requests with provider evidence between the freshness challenge and the quota
step, by listener and pinned generation. -/
structure Broker where
  serving : Nat
  listeners : ListenerConfigSet
  invocation : InvocationRuntimeConfig
  services : ListenerConfig → BrokerGrpc
  fresh : List (ListenerConfig × Nat × RunQuotaKey)

def startup (listeners : ListenerConfigSet) (invocation : InvocationRuntimeConfig)
    (entropy : ListenerConfig → Option InstanceId) : Broker :=
  ⟨1, listeners, invocation, fun c => boundService c invocation (entropy c), []⟩

structure Quota where
  limit : Option Nat
  retentionSecs : Nat

inductive ChallengeDenial where
  | missing
  | denied (reason : ConsumeDenied)

/-- `consume_freshness_challenge` of a request with provider evidence: the proof key `jkt` makes
the challenge mandatory, and only the table of the listener's own service is asked. -/
def consumeFreshnessChallenge (service : BrokerGrpc) (generation : Nat)
    (challenge : Option (FixedBytes challengeLen)) (jkt : Jkt) (now : Int) :
    BrokerGrpc × Except ChallengeDenial Unit :=
  match challenge with
  | none => (service, .error .missing)
  | some challenge =>
      let r := service.challengeTable.consume challenge.bytes jkt generation now
      ({ service with challengeTable := r.1 }, r.2.mapError .denied)

/-- A request is pinned to the generation it loaded; requests of earlier generations may still be
in flight. -/
inductive Step where
  | challenge (listener : ListenerConfig) (connectionId : Nat) (peer : PeerInfo)
      (request : GetInvocationChallengeRequest) (now : Int) (env : IssueEnv) (locksFree : Bool)
  | freshness (listener : ListenerConfig) (pinned : Nat) (key : RunQuotaKey)
      (challenge : Option (FixedBytes challengeLen)) (jkt : Jkt) (now : Int)
  | quota (listener : ListenerConfig) (pinned : Nat) (key : RunQuotaKey) (now : Int)
  | reload (candidate : ListenerConfigSet) (entropy : ListenerConfig → Option InstanceId)

inductive Reply where
  | challenge (result : Except Status GetInvocationChallengeResponse)
  | freshness (result : Except ChallengeDenial Unit)
  | quota (serving : Nat) (result : Except RunQuotaDenied RunQuotaReceipt)
  | refused
  | reloaded

namespace Broker

def exposesInvocation (s : Broker) (c : ListenerConfig) : Bool :=
  decide (c ∈ s.listeners.configs) && c.listenerType.exposes .invocation

def serve (s : Broker) (c : ListenerConfig) (service : BrokerGrpc)
    (fresh : List (ListenerConfig × Nat × RunQuotaKey)) : Broker :=
  { s with services := Function.update s.services c service, fresh }

theorem exposesInvocation_iff {s : Broker} {c : ListenerConfig} :
    s.exposesInvocation c = true ↔ c ∈ s.listeners.configs := by
  unfold exposesInvocation
  cases c.listenerType <;> simp [ListenerType.exposes]

end Broker

section Step

variable (blake3 : Bytes → SourcePartition) (quotas : Nat → String → Quota)

def step (s : Broker) : Step → Broker × Reply
  | .challenge c connectionId peer request now env locksFree =>
      if s.exposesInvocation c = true then
        let r := getInvocationChallenge blake3 (s.services c) s.serving now env locksFree
          (.ofConnection ⟨connectionId, c.name, c.listenerType, peer⟩) request
        (s.serve c r.1 s.fresh, .challenge r.2)
      else (s, .refused)
  | .freshness c pinned key challenge jkt now =>
      if s.exposesInvocation c = true ∧ pinned ≤ s.serving then
        let r := consumeFreshnessChallenge (s.services c) pinned challenge jkt now
        (s.serve c r.1 (match r.2 with
          | .ok () => (c, pinned, key) :: s.fresh
          | .error _ => s.fresh), .freshness r.2)
      else (s, .refused)
  | .quota c pinned key now =>
      if (c, pinned, key) ∈ s.fresh then
        let quota := quotas pinned key.ruleId
        let r := (s.services c).runQuota.chargeWithReceipt pinned key quota.limit quota.retentionSecs now
        (s.serve c { s.services c with runQuota := r.1 } (s.fresh.erase (c, pinned, key)),
          .quota s.serving r.2)
      else (s, .refused)
  | .reload candidate entropy =>
      -- the connections of a changed listener are closed with its service
      ({ s with
          serving := s.serving + 1
          listeners := candidate
          services := fun c =>
            if c ∈ s.listeners.configs then s.services c
            else boundService c s.invocation (entropy c)
          fresh := s.fresh.filter fun e => e.1 ∈ candidate.configs }, .reloaded)

def admitted (g : Nat) (key : RunQuotaKey) : Step × Reply → Bool
  | (.quota _ pinned k _, .quota serving (.ok _)) => pinned = g && k = key && serving = g
  | _ => false

def admittedCount (g : Nat) (key : RunQuotaKey) (s : Broker) (steps : List Step) : Nat :=
  (events (step blake3 quotas) s steps).countP (admitted g key)

/-- At a charge in generation `g` no bucket of a listener has expired. -/
def NoneExpired (g : Nat) (s : Broker) : Step → Prop
  | .quota _ _ _ now => s.serving = g → ∀ c ∈ s.listeners.configs, (s.services c).runQuota.NoneExpired now
  | _ => True

def Unexpired (g : Nat) : Broker → List Step → Prop := Along (step blake3 quotas) (NoneExpired g)

end Step

variable {blake3 : Bytes → SourcePartition} {quotas : Nat → String → Quota} {g limit : Nat}
  {key : RunQuotaKey} {s : Broker} {c : ListenerConfig} {service : BrokerGrpc}
  {fresh : List (ListenerConfig × Nat × RunQuotaKey)}

theorem admitted_quota {pinned serving : Nat} {key' : RunQuotaKey} {now : Int}
    {result : Except RunQuotaDenied RunQuotaReceipt} :
    admitted g key (.quota c pinned key' now, .quota serving result) = true ↔
      pinned = g ∧ key' = key ∧ serving = g ∧ ∃ receipt, result = .ok receipt := by
  cases result <;> simp [admitted, and_assoc]

@[simp] theorem consumeFreshnessChallenge_runQuota (generation : Nat)
    (challenge : Option (FixedBytes challengeLen)) (jkt : Jkt) (now : Int) :
    (consumeFreshnessChallenge service generation challenge jkt now).1.runQuota = service.runQuota := by
  cases challenge <;> rfl

theorem serve_runQuota (h : service.runQuota = (s.services c).runQuota) (d : ListenerConfig) :
    ((s.serve c service fresh).services d).runQuota = (s.services d).runQuota := by
  by_cases hd : d = c
  · subst hd
    simpa [Broker.serve] using h
  · simp [Broker.serve, hd]

/-! ### Which listeners reach the quota step -/

/-- The listener's configured name is the display text of its type. -/
def TypeNamed (c : ListenerConfig) : Prop := c.name = c.listenerType.display

/-- The service of another listener has never issued a challenge. -/
structure Serves (c : ListenerConfig) (service : BrokerGrpc) : Prop where
  name_eq : service.listenerName = c.listenerType.display
  unissued : ¬ TypeNamed c → ∀ suffix, service.challengeTable.records.lookup suffix = none

structure PassedGate (s : Broker) (e : ListenerConfig × Nat × RunQuotaKey) : Prop where
  served : e.1 ∈ s.listeners.configs
  named : TypeNamed e.1
  pinned_le : e.2.1 ≤ s.serving

structure Gated (s : Broker) : Prop where
  serves : ∀ c ∈ s.listeners.configs, Serves c (s.services c)
  passed : ∀ e ∈ s.fresh, PassedGate s e

theorem serves_boundService (c : ListenerConfig) (invocation : InvocationRuntimeConfig)
    (entropy : Option InstanceId) : Serves c (boundService c invocation entropy) :=
  ⟨rfl, fun _ _ => rfl⟩

theorem Gated.serve (h : Gated s) (hservice : Serves c service)
    (hpassed : ∀ e ∈ fresh, PassedGate s e) : Gated (s.serve c service fresh) := by
  refine ⟨?_, fun e he => ⟨(hpassed e he).served, (hpassed e he).named, (hpassed e he).pinned_le⟩⟩
  intro d hd
  by_cases heq : d = c
  · subst heq
    simpa [Broker.serve] using hservice
  · simpa [Broker.serve, heq] using h.serves d hd

theorem Serves.challenge (h : Serves c service) (generation connectionId : Nat) (peer : PeerInfo)
    (request : GetInvocationChallengeRequest) (now : Int) (env : IssueEnv) (locksFree : Bool) :
    let r := getInvocationChallenge blake3 service generation now env locksFree
      (.ofConnection ⟨connectionId, c.name, c.listenerType, peer⟩) request
    Serves c r.1 ∧ r.1.runQuota = service.runQuota := by
  intro r
  simp only [r, getInvocationChallenge]
  cases hadmit : admitChallenge blake3 service
      (.ofConnection ⟨connectionId, c.name, c.listenerType, peer⟩) request locksFree with
  | error status => exact ⟨h, rfl⟩
  | ok found =>
    refine ⟨⟨h.name_eq, ?_⟩, rfl⟩
    intro hunnamed
    -- the connection's name is not the service's, so no source is found
    have hmismatch : challengeSourcePartition blake3 service
        (.ofConnection ⟨connectionId, c.name, c.listenerType, peer⟩) request =
          .error challengeSourceContextUnavailable := by
      apply challengeSourcePartition_mismatch
      rintro ⟨-, hsame⟩
      exact hunnamed (hsame.trans h.name_eq)
    simp only [admitChallenge, hmismatch, eq_ok] at hadmit
    obtain ⟨_, _, _, _, _, ⟨⟩, _⟩ := hadmit

theorem Serves.freshness (h : Serves c service) (generation : Nat)
    (challenge : Option (FixedBytes challengeLen)) (jkt : Jkt) (now : Int) :
    let r := consumeFreshnessChallenge service generation challenge jkt now
    Serves c r.1 ∧ (r.2 = .ok () → TypeNamed c) := by
  intro r
  cases challenge with
  | none => exact ⟨h, by rintro ⟨⟩⟩
  | some challenge =>
    simp only [r, consumeFreshnessChallenge]
    rcases service.challengeTable.consume_cases challenge.bytes jkt generation now with
      ⟨t, denied, hrun, hshrinks⟩ | ⟨id, suffix, expiry, hrun, -, -, hrecord, -⟩
    · rw [hrun]
      refine ⟨⟨h.name_eq, ?_⟩, by rintro ⟨⟩⟩
      intro hunnamed suffix
      rw [Option.eq_none_iff_forall_ne_some]
      intro record hrecord
      have hnone := h.unissued hunnamed suffix
      rw [hshrinks.records_sub suffix record hrecord] at hnone
      cases hnone
    · have hnamed : TypeNamed c := by
        by_contra hunnamed
        rw [h.unissued hunnamed suffix] at hrecord
        cases hrecord
      exact ⟨⟨h.name_eq, fun hunnamed => absurd hnamed hunnamed⟩, fun _ => hnamed⟩

theorem gated_step (s : Broker) (i : Step) (h : Gated s) : Gated (step blake3 quotas s i).1 := by
  cases i with
  | challenge c connectionId peer request now env locksFree =>
    simp only [step]
    split
    · next hexposes =>
      have hserves := h.serves c (Broker.exposesInvocation_iff.mp hexposes)
      exact h.serve (hserves.challenge _ _ _ _ _ _ _).1 h.passed
    · exact h
  | freshness c pinned key challenge jkt now =>
    simp only [step]
    split
    · next hexposes =>
      have hmem := Broker.exposesInvocation_iff.mp hexposes.1
      obtain ⟨hserves, hnamed⟩ := (h.serves c hmem).freshness pinned challenge jkt now
      apply h.serve hserves
      cases hresult : (consumeFreshnessChallenge (s.services c) pinned challenge jkt now).2 with
      | error denial => exact h.passed
      | ok =>
        intro e he
        rcases mem_cons.mp he with rfl | he
        · exact ⟨hmem, hnamed hresult, hexposes.2⟩
        · exact h.passed e he
    · exact h
  | quota c pinned key now =>
    simp only [step]
    split
    · next hfresh =>
      have hserves := h.serves c (h.passed _ hfresh).served
      refine h.serve ⟨hserves.name_eq, hserves.unissued⟩ ?_
      intro e he
      exact h.passed e (mem_of_mem_erase he)
    · exact h
  | reload candidate entropy =>
    refine ⟨?_, ?_⟩
    · intro d _
      simp only [step]
      split
      · next hd => exact h.serves d hd
      · exact serves_boundService d _ _
    · intro e he
      simp only [step, mem_filter, decide_eq_true_eq] at he
      have hpassed := h.passed e he.1
      exact ⟨he.2, hpassed.named, Nat.le_succ_of_le hpassed.pinned_le⟩

theorem gated_run (start : ListenerConfigSet) (invocation : InvocationRuntimeConfig)
    (entropy : ListenerConfig → Option InstanceId) (steps : List Step) :
    Gated (final (step blake3 quotas) (startup start invocation entropy) steps) :=
  Trace.invariant Gated gated_step
    ⟨fun c _ => serves_boundService c invocation (entropy c), by simp [startup]⟩ steps

/-! ### One listener that issues challenges -/

structure Bounded (g limit : Nat) (key : RunQuotaKey) (n : Nat) (s : Broker) : Prop where
  gated : Gated s
  count_le : n ≤ limit
  serving_ge : g ≤ s.serving
  held : s.serving = g → ∀ c ∈ s.listeners.configs, TypeNamed c →
    (∀ d ∈ s.listeners.configs, TypeNamed d → d = c) ∧
      (0 < n → (s.services c).runQuota.Holds g key n)

theorem Bounded.serve {n : Nat} (hb : Bounded g limit key n s) (hgated : Gated (s.serve c service fresh))
    (hsame : service.runQuota = (s.services c).runQuota) :
    Bounded g limit key n (s.serve c service fresh) := by
  refine ⟨hgated, hb.count_le, hb.serving_ge, ?_⟩
  intro hserving d hd hnamed
  rw [serve_runQuota hsame]
  exact hb.held hserving d hd hnamed

section Limited

variable (hlimit : 0 < limit) (hmax : limit ≤ u64Max)
  (hquota : (quotas g key.ruleId).limit = some limit)
include hlimit hmax hquota

theorem charge_bounded {t : RunQuotaTable} {pinned n : Nat} {key' : RunQuotaKey} {now : Int}
    (hn : n ≤ limit) (hheld : 0 < n → t.Holds g key n) (hpinned : pinned ≤ g)
    (hlive : t.NoneExpired now) :
    let r := t.chargeWithReceipt pinned key' (quotas pinned key'.ruleId).limit
      (quotas pinned key'.ruleId).retentionSecs now
    (0 < n → r.1.Holds g key n) ∧
      (pinned = g → key' = key → ∀ receipt, r.2 = .ok receipt →
        n + 1 ≤ limit ∧ r.1.Holds g key (n + 1)) := by
  intro r
  constructor
  · intro hpos
    have hholds := hheld hpos
    simp only [r, chargeWithReceipt]
    split
    · exact hholds
    · split
      · exact hholds
      · rw [hholds.enterGeneration_eq hpinned]
        exact hholds.chargeBucket hlive (by omega) _ _ _
  · rintro rfl rfl receipt hok
    have hne : limit ≠ 0 := by omega
    simp only [r, chargeWithReceipt, hquota, if_neg hne] at hok ⊢
    refine chargeBucket_admits (enterGeneration_tracks t pinned) ?_ ?_
      hlimit hmax hok
    · intro bucket hbucket
      rcases Nat.eq_zero_or_pos n with hzero | hpos
      · omega
      · obtain ⟨-, bucket', hbucket', hcount⟩ := hheld hpos
        rw [enterGeneration_lookup hbucket] at hbucket'
        cases hbucket'
        exact hcount
    · intro hnone
      rcases Nat.eq_zero_or_pos n with hzero | hpos
      · exact hzero
      · have hholds := hheld hpos
        rw [hholds.enterGeneration_eq (le_refl pinned)] at hnone
        obtain ⟨-, bucket', hbucket', -⟩ := hholds
        rw [hnone] at hbucket'
        cases hbucket'

theorem bounded_quota {n pinned : Nat} {key' : RunQuotaKey} {now : Int} (hb : Bounded g limit key n s)
    (hfresh : (c, pinned, key') ∈ s.fresh) (hlive : NoneExpired g s (.quota c pinned key' now)) :
    let r := (s.services c).runQuota.chargeWithReceipt pinned key' (quotas pinned key'.ruleId).limit
      (quotas pinned key'.ruleId).retentionSecs now
    Gated (s.serve c { s.services c with runQuota := r.1 } fresh) →
    Bounded g limit key
      (n + if admitted g key (.quota c pinned key' now, .quota s.serving r.2) then 1 else 0)
      (s.serve c { s.services c with runQuota := r.1 } fresh) := by
  intro r hgated
  have hpassed := hb.gated.passed _ hfresh
  by_cases hserving : s.serving = g
  · obtain ⟨hunique, hheld⟩ := hb.held hserving c hpassed.served hpassed.named
    have hpinned : pinned ≤ g := hserving ▸ hpassed.pinned_le
    have hcharge : _ ∧ (pinned = g → key' = key → ∀ receipt, r.2 = .ok receipt → _) :=
      charge_bounded hlimit hmax hquota hb.count_le hheld hpinned (hlive hserving c hpassed.served)
    -- no other listener has charged an operation of this generation
    have hcounted : ∀ m, m ≤ limit → (0 < m → r.1.Holds g key m) →
        Bounded g limit key m (s.serve c { s.services c with runQuota := r.1 } fresh) := by
      intro m hm hholds
      refine ⟨hgated, hm, hb.serving_ge, ?_⟩
      intro _ d hd hnamed
      cases hunique d hd hnamed
      exact ⟨hunique, by simpa [Broker.serve] using hholds⟩
    split
    · next hone =>
      obtain ⟨hg, hkey, -, receipt, hok⟩ := admitted_quota.mp hone
      obtain ⟨hle, hholds⟩ := hcharge.2 hg hkey receipt hok
      exact hcounted (n + 1) hle fun _ => hholds
    · exact hcounted n hb.count_le hcharge.1
  · -- a later generation is serving already
    rw [if_neg fun hone => hserving (admitted_quota.mp hone).2.2.1]
    exact ⟨hgated, hb.count_le, hb.serving_ge, fun h => absurd h hserving⟩

theorem bounded_step {n : Nat} {i : Step} (hb : Bounded g limit key n s) (hlive : NoneExpired g s i) :
    Bounded g limit key (n + if admitted g key (i, (step blake3 quotas s i).2) then 1 else 0)
      (step blake3 quotas s i).1 := by
  have hgated : Gated (step blake3 quotas s i).1 := gated_step s i hb.gated
  cases i with
  | challenge c connectionId peer request now env locksFree =>
    simp only [step] at hgated ⊢
    split at hgated
    · next hexposes =>
      have hserves := hb.gated.serves c (Broker.exposesInvocation_iff.mp hexposes)
      simpa [hexposes, admitted] using hb.serve hgated (hserves.challenge _ _ _ _ _ _ _).2
    · next hexposes => simpa [hexposes, admitted] using hb
  | freshness c pinned key' challenge jkt now =>
    simp only [step] at hgated ⊢
    split at hgated
    · next hexposes =>
      simpa only [hexposes, and_self, if_true, admitted, Bool.false_eq_true, if_false, Nat.add_zero]
        using hb.serve hgated (consumeFreshnessChallenge_runQuota pinned challenge jkt now)
    · next hexposes => simpa [hexposes, admitted] using hb
  | quota c pinned key' now =>
    simp only [step] at hgated ⊢
    split at hgated
    · next hfresh =>
      simp only [if_pos hfresh]
      exact bounded_quota hlimit hmax hquota hb hfresh hlive hgated
    · next hfresh => simpa [hfresh, admitted] using hb
  | reload candidate entropy =>
    -- the next generation is serving, so nothing of `g` is counted any more
    have hge := hb.serving_ge
    refine ⟨hgated, by simpa [step, admitted] using hb.count_le, ?_, ?_⟩
    · simp only [step]
      omega
    · intro hserving
      simp only [step] at hserving
      omega

theorem bounded_run {n : Nat} (hb : Bounded g limit key n s) {steps : List Step}
    (hlive : Unexpired blake3 quotas g s steps) :
    n + admittedCount blake3 quotas g key s steps ≤ limit := by
  induction steps generalizing s n with
  | nil => simpa [admittedCount] using hb.count_le
  | cons i is ih =>
    have hrest := ih (bounded_step hlimit hmax hquota hb hlive.1) hlive.2
    simp only [admittedCount, events_cons, countP_cons] at hrest ⊢
    omega

end Limited

/-! ### Two listeners that issue challenges -/

section Operation

variable (blake3)

def instanceId : InstanceId := .fill 16 7

def proofKey : Jkt := .fill 32 1

def drawing : IssueEnv := ⟨none, [some (.fill 16 9)], true, [], []⟩

def issuedChallenge : FixedBytes challengeLen :=
  ⟨instanceId.bytes ++ List.replicate 16 9, by decide⟩

def runnerSource (c : ListenerConfig) : Option String :=
  match c.listenerType with
  | .host => none
  | .courier => some "runner"

/-- A challenge is issued, the request that presents it passes the gate and is charged. -/
def operation (c : ListenerConfig) (key : RunQuotaKey) : List Step :=
  [.challenge c 1 ⟨none, some 1000, none⟩ ⟨proofKey.bytes, runnerSource c⟩ 0 drawing true,
    .freshness c 1 key (some issuedChallenge) proofKey 0,
    .quota c 1 key 0]

def oneOperation : Nat → String → Quota := fun _ _ => ⟨some 1, 600⟩

def newService (c : ListenerConfig) : BrokerGrpc :=
  boundService c ⟨true, false, .default, 1⟩ (some instanceId)

variable {blake3}

theorem newService_admits (blake3 : Bytes → SourcePartition) (hnamed : TypeNamed c) :
    ∃ source, admitChallenge blake3 (newService c)
      (.ofConnection ⟨1, c.name, c.listenerType, ⟨none, some 1000, none⟩⟩)
      ⟨proofKey.bytes, runnerSource c⟩ true = .ok (proofKey, source) := by
  have hsource : challengeSourcePartition blake3 (newService c)
      (.ofConnection ⟨1, c.name, c.listenerType, ⟨none, some 1000, none⟩⟩)
      ⟨proofKey.bytes, runnerSource c⟩ = partitionOf blake3 (newService c)
        ⟨1, c.name, c.listenerType, ⟨none, some 1000, none⟩⟩ 1000 (runnerSource c) := by
    refine challengeSourcePartition_match rfl ⟨rfl, ?_⟩ _
    exact hnamed
  obtain ⟨name, listenerType, _, _, _, _⟩ := c
  cases listenerType with
  | host => exact ⟨_, by simp only [admitChallenge, hsource]; rfl⟩
  | courier => exact ⟨_, by simp only [admitChallenge, hsource]; rfl⟩

theorem newService_round (c : ListenerConfig) (source : SourcePartition) :
    ∃ issued drawn rest, (newService c).challengeTable.issue proofKey source 1 0 drawing =
        (issued, ⟨.ok ⟨issuedChallenge.bytes, 60⟩, drawn⟩) ∧
      issued.consume issuedChallenge.bytes proofKey 1 0 = (rest, .ok ()) :=
  ⟨_, _, _, rfl, rfl⟩

@[simp] theorem serve_serve (service' : BrokerGrpc)
    (fresh' : List (ListenerConfig × Nat × RunQuotaKey)) :
    (s.serve c service fresh).serve c service' fresh' = s.serve c service' fresh' := by
  simp [Broker.serve]

@[simp] theorem serve_services : (s.serve c service fresh).services c = service := by
  simp [Broker.serve]

structure Unused (c : ListenerConfig) (s : Broker) : Prop where
  served : c ∈ s.listeners.configs
  named : TypeNamed c
  serving_eq : s.serving = 1
  fresh_eq : s.fresh = []
  service_eq : s.services c = newService c

/-- The challenge is issued and the request that presents it passes the gate. -/
theorem Unused.gate (h : Unused c s) (blake3 : Bytes → SourcePartition) (quotas : Nat → String → Quota)
    (key : RunQuotaKey) :
    ∃ issued rest reply,
      step blake3 quotas s (.challenge c 1 ⟨none, some 1000, none⟩ ⟨proofKey.bytes, runnerSource c⟩ 0
        drawing true) = (s.serve c { newService c with challengeTable := issued } [], .challenge reply) ∧
      step blake3 quotas (s.serve c { newService c with challengeTable := issued } [])
          (.freshness c 1 key (some issuedChallenge) proofKey 0) =
        (s.serve c { newService c with challengeTable := rest } [(c, 1, key)], .freshness (.ok ())) := by
  obtain ⟨source, hadmits⟩ := newService_admits blake3 h.named
  obtain ⟨issued, drawn, rest, hissue, hconsume⟩ := newService_round c source
  have hexposes : s.exposesInvocation c = true := Broker.exposesInvocation_iff.mpr h.served
  refine ⟨issued, rest, .ok ⟨issuedChallenge.bytes, 1, 60⟩, ?_, ?_⟩
  · simp only [step, if_pos hexposes, getInvocationChallenge, h.service_eq, hadmits, h.serving_eq, hissue,
      h.fresh_eq]
  · have hmet : (s.serve c { newService c with challengeTable := issued } []).exposesInvocation c = true ∧
        1 ≤ (s.serve c { newService c with challengeTable := issued } []).serving :=
      ⟨hexposes, h.serving_eq.ge⟩
    simp only [step, if_pos hmet, serve_services, consumeFreshnessChallenge, hconsume, serve_serve]
    rfl

theorem Unused.operation_admitted (h : Unused c s) (blake3 : Bytes → SourcePartition) (key : RunQuotaKey)
    (hlive : ∀ d, (s.services d).runQuota.NoneExpired 0) :
    ∃ served, served.runQuota.NoneExpired 0 ∧
      final (step blake3 oneOperation) s (operation c key) = s.serve c served [] ∧
      admittedCount blake3 oneOperation 1 key s (operation c key) = 1 ∧
      Unexpired blake3 oneOperation 1 s (operation c key) := by
  obtain ⟨issued, rest, reply, hchallenge, hconsume⟩ := h.gate blake3 oneOperation key
  obtain ⟨t, receipt, hcharge, honly⟩ := new_chargeWithReceipt Nat.one_pos Nat.one_pos 1 key 600 0
  have hcharged : step blake3 oneOperation
      (s.serve c { newService c with challengeTable := rest } [(c, 1, key)]) (.quota c 1 key 0) =
        (s.serve c { newService c with challengeTable := rest, runQuota := t } [],
          .quota 1 (.ok receipt)) := by
    have hfresh : (c, 1, key) ∈
        (s.serve c { newService c with challengeTable := rest } [(c, 1, key)]).fresh :=
      mem_singleton_self _
    have hcharge' : (newService c).runQuota.chargeWithReceipt 1 key (some 1) 600 0 = (t, .ok receipt) :=
      hcharge
    simp only [step, if_pos hfresh, serve_services, oneOperation, hcharge', serve_serve]
    simp [Broker.serve, h.serving_eq]
  have hunexpired : t.NoneExpired 0 := honly.noneExpired (by decide)
  refine ⟨{ newService c with challengeTable := rest, runQuota := t }, hunexpired, ?_, ?_, trivial, ?_⟩
  · simp only [operation, final_cons, final_nil, hchallenge, hconsume, hcharged]
  · simp [operation, admittedCount, hchallenge, hconsume, hcharged, admitted]
  · rw [hchallenge]
    refine ⟨trivial, ?_⟩
    rw [hconsume]
    refine ⟨?_, trivial⟩
    intro _ d _
    have hkept : ({ newService c with challengeTable := rest } : BrokerGrpc).runQuota =
        (s.services c).runQuota := by rw [h.service_eq]
    exact serve_runQuota hkept d ▸ hlive d

theorem two_listeners_exceed {listeners : ListenerConfigSet} {c' : ListenerConfig}
    (hmem : c ∈ listeners.configs) (hmem' : c' ∈ listeners.configs) (hnamed : TypeNamed c)
    (hnamed' : TypeNamed c') (hne : c' ≠ c) (blake3 : Bytes → SourcePartition) (key : RunQuotaKey) :
    let s := startup listeners ⟨true, false, .default, 1⟩ fun _ => some instanceId
    let window := operation c key ++ operation c' key
    Unexpired blake3 oneOperation 1 s window ∧
      admittedCount blake3 oneOperation 1 key s window = 2 := by
  intro s window
  have hstart : Unused c s := ⟨hmem, hnamed, rfl, rfl, rfl⟩
  obtain ⟨served, hserved, hfinal, hone, hlive⟩ :=
    hstart.operation_admitted blake3 key fun _ => new_noneExpired 1 0
  -- the tables of the second listener have seen nothing of the first operation
  have hother : Unused c' (s.serve c served []) :=
    ⟨hmem', hnamed', rfl, rfl, by simp [Broker.serve, hne, s, startup, newService]⟩
  have hlive' : ∀ d, ((s.serve c served []).services d).runQuota.NoneExpired 0 := by
    intro d
    by_cases hd : d = c
    · subst hd
      simpa using hserved
    · have hnew : (s.services d).runQuota.NoneExpired 0 := new_noneExpired 1 0
      simpa [Broker.serve, hd] using hnew
  obtain ⟨_, -, -, hmore, hwindow⟩ := hother.operation_admitted blake3 key hlive'
  constructor
  · exact along_append.mpr ⟨hlive, by rwa [hfinal]⟩
  · simp only [window, admittedCount, events_append, countP_append, hfinal] at hone hmore ⊢
    rw [hone, hmore]

end Operation

/-! ### The bound of a generation -/

/-- In every run, however a generation with these listeners was reached, the operations admitted
in it for one key stay within the limit of its rule while no bucket expires. -/
def QuotaKept (blake3 : Bytes → SourcePartition) (listeners : ListenerConfigSet) : Prop :=
  ∀ (quotas : Nat → String → Quota) (g limit : Nat) (key : RunQuotaKey), 0 < limit → limit ≤ u64Max →
    (quotas g key.ruleId).limit = some limit →
    ∀ (start : ListenerConfigSet) (invocation : InvocationRuntimeConfig)
      (entropy : ListenerConfig → Option InstanceId) (past window : List Step),
      let s := final (step blake3 quotas) (startup start invocation entropy) past
      s.serving = g → s.listeners = listeners → Unexpired blake3 quotas g s window →
        admittedCount blake3 quotas g key s window ≤ limit

theorem typeNamed_unique {listeners : ListenerConfigSet} {d : ListenerConfig}
    (hc : c ∈ listeners.configs) (hd : d ∈ listeners.configs) (hnamed : TypeNamed c)
    (hnamed' : TypeNamed d) (htype : d.listenerType = c.listenerType) : d = c := by
  apply inj_on_of_nodup_map listeners.names_nodup hd hc
  rw [hnamed, hnamed', htype]

def releaseRun : RunQuotaKey := ⟨"release", 8812, 1⟩

theorem quota_kept_iff_not_both_named (blake3 : Bytes → SourcePartition) (listeners : ListenerConfigSet) :
    QuotaKept blake3 listeners ↔
      ¬ ∀ t : ListenerType, ∃ c ∈ listeners.configs, c.listenerType = t ∧ c.name = t.display := by
  constructor
  · intro hkept hboth
    obtain ⟨host, hhost, htype, hname⟩ := hboth .host
    obtain ⟨courier, hcourier, htype', hname'⟩ := hboth .courier
    have hne : courier ≠ host := by
      rintro rfl
      rw [htype] at htype'
      cases htype'
    rw [← htype] at hname
    rw [← htype'] at hname'
    obtain ⟨hlive, hcount⟩ := two_listeners_exceed hhost hcourier hname hname' hne blake3 releaseRun
    have hle := hkept oneOperation 1 1 releaseRun Nat.one_pos (by decide) rfl listeners _ _ [] _ rfl rfl hlive
    rw [final_nil, hcount] at hle
    omega
  · intro hnot quotas g limit key hlimit hmax hquota start invocation entropy past window s hserving
      hlisteners hlive
    have hb : Bounded g limit key 0 s := by
      refine ⟨gated_run start invocation entropy past, Nat.zero_le limit, hserving.ge, ?_⟩
      intro _ c hc hnamed
      refine ⟨?_, fun hpos => absurd hpos (lt_irrefl 0)⟩
      intro d hd hnamed'
      apply typeNamed_unique hc hd hnamed hnamed'
      by_contra htype
      apply hnot
      rw [hlisteners] at hc hd
      intro t
      have ht : c.listenerType = t ∨ d.listenerType = t := by
        generalize c.listenerType = a at htype ⊢
        generalize d.listenerType = b at htype ⊢
        cases a <;> cases b <;> cases t <;> simp at htype ⊢
      rcases ht with rfl | rfl
      · exact ⟨c, hc, rfl, hnamed⟩
      · exact ⟨d, hd, rfl, hnamed'⟩
    have hbound := bounded_run hlimit hmax hquota hb hlive
    omega

def courierListener : ListenerConfig :=
  ⟨"courier", .courier, "/run/basil/courier.sock", 432, none, by decide⟩

def hostAndCourier : ListenerConfigSet :=
  ⟨[hostListener, courierListener], by decide, by decide, ⟨hostListener, by decide, rfl⟩, by decide⟩

theorem quota_exceeded_host_and_courier :
    let s := startup hostAndCourier ⟨true, false, .default, 1⟩ fun _ => some instanceId
    let window := operation hostListener releaseRun ++ operation courierListener releaseRun
    (oneOperation 1 releaseRun.ruleId).limit = some 1 ∧
      Unexpired (fun _ => .fill 32 0) oneOperation 1 s window ∧
      admittedCount (fun _ => .fill 32 0) oneOperation 1 releaseRun s window = 2 :=
  ⟨rfl, two_listeners_exceed (by decide) (by decide) (rfl : TypeNamed hostListener)
    (rfl : TypeNamed courierListener) (by decide) _ releaseRun⟩

end Basil.RunQuota
