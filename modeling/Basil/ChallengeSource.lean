import Basil.Challenge
import Basil.Connection
import Basil.Lib.Trace
import Basil.RunQuota

/-!
# Challenge issuance on a listener (`service/invocation.rs`, `service/broker.rs`,
`transport/grpc_server.rs`)

A challenge request is bound to the listener it arrived on; the digest of that source is a
parameter.
-/

namespace Basil.ChallengeSource

open Connection Challenge List

/-! ### The service of one listener -/

structure InvocationRuntimeConfig where
  enabled : Bool
  requireChallenge : Bool
  challengeTable : Challenge.Config
  runQuotaBucketsPerRule : Nat

structure BrokerGrpc where
  invocation : InvocationRuntimeConfig
  listenerName : String
  listenerType : ListenerType
  challengeTable : ChallengeTable
  runQuota : RunQuota.RunQuotaTable

def newWithInvocationConfigForNamedListener (invocation : InvocationRuntimeConfig)
    (listenerName : String) (listenerType : ListenerType) (entropy : Option InstanceId) :
    BrokerGrpc where
  invocation :=
    if listenerType = .courier then { invocation with requireChallenge := true } else invocation
  listenerName := listenerName
  listenerType := listenerType
  challengeTable := withConfig invocation.challengeTable entropy
  runQuota := .new invocation.runQuotaBucketsPerRule

def newWithInvocationConfigForListener (invocation : InvocationRuntimeConfig)
    (listenerType : ListenerType) (entropy : Option InstanceId) : BrokerGrpc :=
  newWithInvocationConfigForNamedListener invocation listenerType.display listenerType entropy

def boundService (listener : ListenerConfig) (invocation : InvocationRuntimeConfig)
    (entropy : Option InstanceId) : BrokerGrpc :=
  newWithInvocationConfigForListener invocation listener.listenerType entropy

/-! ### The source of a challenge request -/

structure Extensions where
  peer : Option PeerInfo
  connectInfo : Option ListenerConnectInfo
  udsCred : Option UCred

def Extensions.ofConnection (context : ListenerConnectInfo) : Extensions := ⟨none, some context, none⟩

def peerFromExtensions (e : Extensions) : PeerInfo :=
  match e.peer with
  | some peer => peer
  | none =>
      match e.connectInfo with
      | some context => context.peer
      | none =>
          match e.udsCred with
          | none => .default
          | some cred =>
              ⟨cred.pid.map fun pid => (pid % (2 ^ 32)).toNat, some cred.uid, some cred.gid⟩

@[simp] theorem ofConnection_connectInfo (context : ListenerConnectInfo) :
    (Extensions.ofConnection context).connectInfo = some context := rfl

@[simp] theorem peerFromExtensions_ofConnection (context : ListenerConnectInfo) :
    peerFromExtensions (.ofConnection context) = context.peer := rfl

structure GetInvocationChallengeRequest where
  jkt : Bytes
  courierObservedSource : Option String

def challengeOp : String := "get_invocation_challenge"

def maxCourierSourceBytes : Nat := 128

def sourcePartitionDomain : Bytes := "basil.challenge-source-partition.v1\x00".toUTF8.toList

def lengthPrefixed (value : Bytes) : Bytes := beBytes 8 (min value.length u64Max) ++ value

def challengeSourceContextUnavailable : Status :=
  ⟨.unavailable, "CHALLENGE_SOURCE_CONTEXT_UNAVAILABLE", challengeOp,
    "challenge source context unavailable"⟩

section Partition

variable (blake3 : Bytes → SourcePartition)

def derivePartition (kind : UInt8) (listenerName : String) (uid : Nat) (source : Option String) :
    SourcePartition :=
  blake3 (sourcePartitionDomain ++ [kind] ++ lengthPrefixed listenerName.toUTF8.toList ++ beBytes 4 uid ++
    match source with
    | some source => 1 :: lengthPrefixed source.toUTF8.toList
    | none => [0])

def hostPartition (listenerName : String) (uid : Nat) : SourcePartition :=
  derivePartition blake3 0 listenerName uid none

def courierPartition (listenerName : String) (uid : Nat) (source : String) : SourcePartition :=
  derivePartition blake3 2 listenerName uid (some source)

/-- The caller's uid, when the connection is of this service's listener. -/
def sourceUid (service : BrokerGrpc) (e : Extensions) :
    Except Status (ListenerConnectInfo × Nat) := do
  let context ← orErr e.connectInfo challengeSourceContextUnavailable
  ensure (context.listenerType = service.listenerType ∧ context.listenerName = service.listenerName)
    challengeSourceContextUnavailable
  let uid ← orErr context.peer.uid challengeSourceContextUnavailable
  ensure ((peerFromExtensions e).uid = some uid) challengeSourceContextUnavailable
  return (context, uid)

def partitionOf (service : BrokerGrpc) (context : ListenerConnectInfo) (uid : Nat)
    (source : Option String) : Except Status SourcePartition :=
  match service.listenerType with
  | .host => do
      ensure (source = none)
        (invalidRequest challengeOp "courier_observed_source is forbidden on host listeners")
      return hostPartition blake3 context.listenerName uid
  | .courier => do
      let source ← orErr source
        (invalidRequest challengeOp "courier_observed_source is required on courier listeners")
      ensure (source ≠ "" ∧ source.utf8ByteSize ≤ maxCourierSourceBytes ∧
          source.toList.any Text.isControl = false)
        (invalidRequest challengeOp "courier_observed_source must be 1..=128 control-free bytes")
      return courierPartition blake3 context.listenerName uid source

def challengeSourcePartition (service : BrokerGrpc) (e : Extensions)
    (request : GetInvocationChallengeRequest) : Except Status SourcePartition := do
  let r ← sourceUid service e
  partitionOf blake3 service r.1 r.2 request.courierObservedSource

/-! ### The handler -/

structure GetInvocationChallengeResponse where
  challenge : Bytes
  generation : Nat
  expiresAtUnix : Int

def challengeIssuanceDeclined : Status :=
  ⟨.resourceExhausted, "CHALLENGE_ISSUANCE_DECLINED", challengeOp,
    "challenge issuance declined; retry after backoff"⟩

/-- The checks of `get_invocation_challenge` before the table is asked. -/
def admitChallenge (service : BrokerGrpc) (e : Extensions) (request : GetInvocationChallengeRequest)
    (locksFree : Bool) : Except Status (Jkt × SourcePartition) := do
  ensure (service.invocation.enabled = true)
    ⟨.failedPrecondition, "INVOCATION_DISABLED", challengeOp,
      "InvocationService is disabled; set invocation.enable=true to issue challenges"⟩
  let jkt ← orErr (FixedBytes.ofBytes? 32 request.jkt)
    (invalidRequest challengeOp "jkt must be exactly 32 bytes")
  let source ← challengeSourcePartition blake3 service e request
  ensure (locksFree = true) challengeIssuanceDeclined
  return (jkt, source)

def getInvocationChallenge (service : BrokerGrpc) (generation : Nat) (now : Int) (env : IssueEnv)
    (locksFree : Bool) (e : Extensions) (request : GetInvocationChallengeRequest) :
    BrokerGrpc × Except Status GetInvocationChallengeResponse :=
  match admitChallenge blake3 service e request locksFree with
  | .error status => (service, .error status)
  | .ok (jkt, source) =>
      let r := service.challengeTable.issue jkt source generation now env
      ({ service with challengeTable := r.1 },
        match r.2.result with
        | .ok issued => .ok ⟨issued.challenge, generation, issued.expiresAtUnix⟩
        | .error _ => .error challengeIssuanceDeclined)

variable {blake3}

theorem partitionOf_ne_unavailable (service : BrokerGrpc) (context : ListenerConnectInfo) (uid : Nat)
    (source : Option String) :
    partitionOf blake3 service context uid source ≠ .error challengeSourceContextUnavailable := by
  -- every refusal of the source text is an invalid request
  unfold partitionOf
  cases service.listenerType with
  | host =>
    by_cases hsource : source = none
    · simp [ensure_pos hsource]
    · simp [ensure_neg hsource, invalidRequest, challengeSourceContextUnavailable]
  | courier =>
    cases source with
    | none => simp [orErr, invalidRequest, challengeSourceContextUnavailable]
    | some text =>
      by_cases htext : text ≠ "" ∧ text.utf8ByteSize ≤ maxCourierSourceBytes ∧
          text.toList.any Text.isControl = false
      · simp only [orErr, ok_bind, ensure_pos htext]
        intro h
        cases h
      · simp only [orErr, ok_bind, ensure_neg htext, error_bind]
        simp [invalidRequest, challengeSourceContextUnavailable]

theorem challengeSourcePartition_mismatch {service : BrokerGrpc} {context : ListenerConnectInfo}
    (hlistener : ¬ (context.listenerType = service.listenerType ∧
      context.listenerName = service.listenerName)) (request : GetInvocationChallengeRequest) :
    challengeSourcePartition blake3 service (.ofConnection context) request =
      .error challengeSourceContextUnavailable := by
  unfold challengeSourcePartition sourceUid
  simp only [ofConnection_connectInfo, orErr, ok_bind, ensure_neg hlistener]
  rfl

theorem challengeSourcePartition_match {service : BrokerGrpc} {context : ListenerConnectInfo}
    {uid : Nat} (huid : context.peer.uid = some uid)
    (hlistener : context.listenerType = service.listenerType ∧
      context.listenerName = service.listenerName) (request : GetInvocationChallengeRequest) :
    challengeSourcePartition blake3 service (.ofConnection context) request =
      partitionOf blake3 service context uid request.courierObservedSource := by
  have hsource : sourceUid service (.ofConnection context) = .ok (context, uid) := by
    simp only [sourceUid, ofConnection_connectInfo, peerFromExtensions_ofConnection, orErr, ok_bind,
      ensure_pos hlistener, huid, ensure_pos]
    rfl
  unfold challengeSourcePartition
  rw [hsource]
  rfl

theorem challengeSourcePartition_unavailable_iff {service : BrokerGrpc} {context : ListenerConnectInfo}
    {uid : Nat} (huid : context.peer.uid = some uid) (request : GetInvocationChallengeRequest) :
    challengeSourcePartition blake3 service (.ofConnection context) request =
        .error challengeSourceContextUnavailable ↔
      ¬ (context.listenerType = service.listenerType ∧ context.listenerName = service.listenerName) := by
  by_cases hlistener : context.listenerType = service.listenerType ∧
      context.listenerName = service.listenerName
  · rw [challengeSourcePartition_match huid hlistener]
    exact iff_of_false (partitionOf_ne_unavailable service context uid _) (fun h => h hlistener)
  · exact iff_of_true (challengeSourcePartition_mismatch hlistener request) hlistener

end Partition

/-! ### What the digest is taken over -/

/-- The bytes of a string; no object in memory has more than `isize::MAX`. -/
abbrev StrBytes := { bytes : Bytes // bytes.length < 2 ^ 63 }

def partitionPreimage (kind : UInt8) (listenerName : Bytes) (uid : Nat) (source : Option Bytes) :
    Bytes :=
  sourcePartitionDomain ++ [kind] ++ lengthPrefixed listenerName ++ beBytes 4 uid ++
    match source with
    | some source => 1 :: lengthPrefixed source
    | none => [0]

theorem lengthPrefixed_inj {a b : StrBytes} {x y : Bytes}
    (h : lengthPrefixed a.1 ++ x = lengthPrefixed b.1 ++ y) : a = b ∧ x = y := by
  rw [lengthPrefixed, lengthPrefixed, append_assoc, append_assoc] at h
  obtain ⟨hwidth, hrest⟩ := append_inj h (by rw [length_beBytes, length_beBytes])
  have hlength : a.1.length = b.1.length := by
    have hnat := congrArg beNat hwidth
    rw [beNat_beBytes, beNat_beBytes] at hnat
    have ha := a.2
    have hb := b.2
    unfold u64Max at hnat
    omega
  obtain ⟨hbytes, htail⟩ := append_inj hrest hlength
  exact ⟨Subtype.ext hbytes, htail⟩

theorem partition_preimage_injective :
    (∀ blake3 kind listenerName uid source,
      derivePartition blake3 kind listenerName uid source =
        blake3 (partitionPreimage kind listenerName.toUTF8.toList uid
          (source.map fun source => source.toUTF8.toList))) ∧
    Function.Injective fun t : UInt8 × StrBytes × UInt32 × Option StrBytes =>
      partitionPreimage t.1 t.2.1.1 t.2.2.1.toNat (t.2.2.2.map Subtype.val) := by
  constructor
  · intro blake3 kind listenerName uid source
    cases source <;> rfl
  · rintro ⟨kind, name, uid, source⟩ ⟨kind', name', uid', source'⟩ h
    simp only [partitionPreimage, append_assoc] at h
    obtain ⟨rfl, hname⟩ := cons.inj (append_cancel_left h)
    obtain ⟨rfl, huid⟩ := lengthPrefixed_inj hname
    obtain ⟨hword, hsource⟩ := append_inj huid (by rw [length_beBytes, length_beBytes])
    obtain rfl : uid = uid' := by
      have hnat := congrArg beNat hword
      have hlt := uid.toNat_lt
      have hlt' := uid'.toNat_lt
      rw [beNat_beBytes, beNat_beBytes] at hnat
      exact UInt32.toNat_inj.mp (by omega)
    cases source with
    | none =>
      cases source' with
      | none => rfl
      | some source' => cases hsource
    | some source =>
      cases source' with
      | none => cases hsource
      | some source' =>
        have hlast := (cons.inj hsource).2
        rw [← append_nil (lengthPrefixed source.1), ← append_nil (lengthPrefixed source'.1)] at hlast
        rw [(lengthPrefixed_inj hlast).1]

/-! ### Connections over a run -/

structure Stream where
  listener : ListenerConfig
  context : ListenerConnectInfo

structure Transport where
  ceilings : ConnectionCeilings
  registry : RegistryState
  streams : Table Nat Stream

def Transport.start (ceilings : ConnectionCeilings) : Transport := ⟨ceilings, .empty, ∅⟩

inductive Step where
  | accept (listener : ListenerConfig) (cred : Option UCred)
  | close (id : Nat)
  | beginTransition (names : List String)
  | endTransition (names : List String)

def step (t : Transport) : Step → Transport × Option ConnectionRegistryError
  | .accept listener cred =>
      match t.registry.register t.ceilings cred listener.name listener.listenerType with
      | (registry, .error e) => ({ t with registry := registry }, some e)
      | (registry, .ok context) =>
          ({ t with
              registry := registry
              streams := t.streams.insert context.connectionId ⟨listener, context⟩ }, none)
  | .close id => ({ t with registry := t.registry.release id, streams := t.streams.erase id }, none)
  | .beginTransition names =>
      match t.registry.beginListenerTransition names with
      | .error e => (t, some e)
      | .ok registry => ({ t with registry := registry }, none)
  | .endTransition names => ({ t with registry := t.registry.endListenerTransition names }, none)

/-- Every open connection carries the name and type of the listener that accepted it. -/
def Labelled (t : Transport) : Prop :=
  ∀ id stream, t.streams.lookup id = some stream →
    stream.context.listenerName = stream.listener.name ∧
      stream.context.listenerType = stream.listener.listenerType ∧
      ∃ uid, stream.context.peer.uid = some uid

theorem labelled_start (ceilings : ConnectionCeilings) : Labelled (.start ceilings) := by
  intro id stream h
  simp [Transport.start] at h

theorem labelled_step (t : Transport) (i : Step) (h : Labelled t) : Labelled (step t i).1 := by
  cases i with
  | accept listener cred =>
    have hregister : ∀ context, (t.registry.register t.ceilings cred listener.name
        listener.listenerType).2 = .ok context → _ := fun _ => RegistryState.register_ok
    simp only [step]
    generalize t.registry.register t.ceilings cred listener.name listener.listenerType = r
      at hregister ⊢
    obtain ⟨registry, result⟩ := r
    cases result with
    | error e => exact h
    | ok context =>
      intro id stream hlookup
      rw [Table.lookup_insert_eq] at hlookup
      split at hlookup
      · cases hlookup
        exact hregister context rfl
      · exact h id stream hlookup
  | close =>
    intro id' stream hlookup
    simp only [step, Table.lookup_erase_eq] at hlookup
    split at hlookup
    · cases hlookup
    · exact h id' stream hlookup
  | beginTransition names =>
    simp only [step]
    cases t.registry.beginListenerTransition names with
    | error e => exact h
    | ok registry => exact h
  | endTransition => exact h

theorem labelled_run (ceilings : ConnectionCeilings) (steps : List Step) :
    Labelled (Trace.final step (.start ceilings) steps) :=
  Trace.invariant Labelled labelled_step (labelled_start ceilings) steps

section Service

variable (blake3 : Bytes → SourcePartition) (invocation : InvocationRuntimeConfig)
  (entropy : Option InstanceId)

theorem challenge_context_iff_type_name (listener : ListenerConfig) :
    (∀ (ceilings : ConnectionCeilings) (steps : List Step) (id : Nat) (stream : Stream)
        (request : GetInvocationChallengeRequest),
      (Trace.final step (.start ceilings) steps).streams.lookup id = some stream →
      stream.listener = listener →
      challengeSourcePartition blake3 (boundService listener invocation entropy)
        (.ofConnection stream.context) request ≠ .error challengeSourceContextUnavailable) ↔
    listener.name = listener.listenerType.display := by
  constructor
  · intro h
    -- one accepted connection decides it
    let context : ListenerConnectInfo :=
      ⟨1, listener.name, listener.listenerType, ⟨some 4242, some 1000, some 1000⟩⟩
    have hopen : (Trace.final step (.start .compiled)
        [.accept listener (some ⟨some 4242, 1000, 1000⟩)]).streams.lookup 1 =
          some ⟨listener, context⟩ := by
      obtain ⟨name, listenerType, _, _, _, _⟩ := listener
      cases listenerType <;> rfl
    have hpass := h .compiled _ 1 ⟨listener, context⟩ ⟨[], none⟩ hopen rfl
    have huid : context.peer.uid = some 1000 := rfl
    by_contra hname
    apply hpass
    rw [challengeSourcePartition_unavailable_iff huid]
    intro hlistener
    exact hname hlistener.2
  · rintro hname ceilings steps id stream request hopen rfl
    obtain ⟨hlabel, htype, uid, huid⟩ := labelled_run ceilings steps id stream hopen
    rw [Ne, challengeSourcePartition_unavailable_iff huid, not_not]
    exact ⟨htype, hlabel.trans hname⟩

end Service

def challengesEnabled : InvocationRuntimeConfig := ⟨true, false, .default, 4096⟩

theorem ci_listener_refuses_challenge :
    ∃ stream, (Trace.final step (.start .compiled)
        [.accept ciListener (some ⟨some 4242, 1000, 1000⟩)]).streams.lookup 1 = some stream ∧
      stream.listener = ciListener ∧
      challengeSourcePartition (fun _ => .fill 32 0)
        (boundService ciListener challengesEnabled (some (.fill 16 7)))
        (.ofConnection stream.context) ⟨List.replicate 32 1, some "203.0.113.9"⟩ =
          .error challengeSourceContextUnavailable :=
  ⟨⟨ciListener, ⟨1, "ci", .courier, ⟨some 4242, some 1000, some 1000⟩⟩⟩, rfl, rfl, rfl⟩

end Basil.ChallengeSource
