import Basil.Lib.Machine
import Basil.Lib.Table
import Basil.Listener

/-!
# The accepted-transport registry (`transport/connection.rs`)
-/

namespace Basil.Connection

structure ConnectionCeilings where
  maximum : Nat
  maximumPerListener : Nat
  maximumHost : Nat
  maximumCourier : Nat

namespace ConnectionCeilings

def compiled : ConnectionCeilings := ⟨4096, 1024, 1024, 3072⟩

def maximumForType (c : ConnectionCeilings) : ListenerType → Nat
  | .host => c.maximumHost
  | .courier => c.maximumCourier

def isCoherent (c : ConnectionCeilings) : Bool :=
  c.maximum != 0 && c.maximumPerListener != 0 && c.maximumHost != 0 && c.maximumCourier != 0 &&
    decide (c.maximumPerListener ≤ c.maximum) && decide (c.maximumHost ≤ c.maximum) &&
    decide (c.maximumCourier ≤ c.maximum)

end ConnectionCeilings

structure TypeCounts where
  host : Nat
  courier : Nat

namespace TypeCounts

def get (c : TypeCounts) : ListenerType → Nat
  | .host => c.host
  | .courier => c.courier

def modify (c : TypeCounts) (f : Nat → Nat) : ListenerType → TypeCounts
  | .host => { c with host := f c.host }
  | .courier => { c with courier := f c.courier }

end TypeCounts

structure UCred where
  pid : Option Int
  uid : Nat
  gid : Nat

/-- `required_peer_info`: a peer without a positive process id is refused. -/
def requiredPeerInfo (cred : UCred) : Option PeerInfo :=
  match cred.pid with
  | none => none
  | some pid => if 0 < pid then some ⟨some pid.toNat, some cred.uid, some cred.gid⟩ else none

structure ListenerConnectInfo where
  connectionId : Nat
  listenerName : String
  listenerType : ListenerType
  peer : PeerInfo

structure WorkloadIdentity where
  unit : String
  managerUser : Option Nat
  deriving DecidableEq

structure ConnectionIdentity where
  domain : Evidence.AuthorizationDomain
  subject : String
  workload : Option WorkloadIdentity

structure RegistryEntry where
  context : ListenerConnectInfo
  identity : Option ConnectionIdentity
  cancel : Bool
  activeStreams : Nat

inductive ConnectionRegistryError where
  | invalidLimit
  | globalLimit
  | listenerLimit (name : String)
  | listenerTypeLimit (listenerType : ListenerType)
  | idExhausted
  | peerCredentials
  | listenerGated (name : String)
  | connectionUnavailable
  | streamCountExhausted

structure RegistryState where
  nextId : Option Nat
  entries : Table Nat RegistryEntry
  listenerCounts : Table String Nat
  typeCounts : TypeCounts
  gatedListeners : List String

namespace RegistryState

def empty : RegistryState := ⟨some 1, ∅, ∅, ⟨0, 0⟩, []⟩

def withCeilings (ceilings : ConnectionCeilings) : Except ConnectionRegistryError RegistryState := do
  ensure (ceilings.isCoherent = true) .invalidLimit
  return empty

def registerChecks (s : RegistryState) (ceilings : ConnectionCeilings) (cred : Option UCred)
    (listenerName : String) (listenerType : ListenerType) :
    Except ConnectionRegistryError (PeerInfo × Nat) := do
  let peer ← orErr (cred.bind requiredPeerInfo) .peerCredentials
  ensure (listenerName ∉ s.gatedListeners) (.listenerGated listenerName)
  ensure (s.entries.size < ceilings.maximum) .globalLimit
  ensure (s.typeCounts.get listenerType < ceilings.maximumForType listenerType)
    (.listenerTypeLimit listenerType)
  ensure ((s.listenerCounts.lookup listenerName).all (· < ceilings.maximumPerListener) = true)
    (.listenerLimit listenerName)
  let rawId ← orErr s.nextId .idExhausted
  return (peer, rawId)

def insertEntry (s : RegistryState) (context : ListenerConnectInfo) : RegistryState :=
  { s with
    nextId := if context.connectionId = u64Max then none else some (context.connectionId + 1)
    entries := s.entries.insert context.connectionId ⟨context, none, true, 0⟩
    listenerCounts := s.listenerCounts.insert context.listenerName
      ((s.listenerCounts.lookup context.listenerName).getD 0 + 1)
    typeCounts := s.typeCounts.modify (· + 1) context.listenerType }

def register (s : RegistryState) (ceilings : ConnectionCeilings) (cred : Option UCred)
    (listenerName : String) (listenerType : ListenerType) :
    RegistryState × Except ConnectionRegistryError ListenerConnectInfo :=
  match s.registerChecks ceilings cred listenerName listenerType with
  | .error e => (s, .error e)
  | .ok (peer, rawId) =>
      -- an identifier still in use closes the registry for good
      if (s.entries.lookup rawId).isSome then ({ s with nextId := none }, .error .idExhausted)
      else
        let context := ⟨rawId, listenerName, listenerType, peer⟩
        (s.insertEntry context, .ok context)

def release (s : RegistryState) (id : Nat) : RegistryState :=
  match s.entries.lookup id with
  | none => s
  | some entry =>
      { s with
        entries := s.entries.erase id
        typeCounts := s.typeCounts.modify (· - 1) entry.context.listenerType
        listenerCounts :=
          match s.listenerCounts.lookup entry.context.listenerName with
          | some count =>
              if 1 < count then s.listenerCounts.insert entry.context.listenerName (count - 1)
              else s.listenerCounts.erase entry.context.listenerName
          | none => s.listenerCounts }

/-! ### Cancellation and streams -/

def updateEntry (s : RegistryState) (id : Nat) (f : RegistryEntry → RegistryEntry) : RegistryState :=
  { s with entries := s.entries.modify id f }

/-- `cancel` takes the entry's sender; the entry stays until its stream drops. -/
def cancel (s : RegistryState) (id : Nat) (receiver : Nat → Bool) : RegistryState × Bool :=
  match s.entries.lookup id with
  | none => (s, false)
  | some entry =>
      (s.updateEntry id fun entry => { entry with cancel := false }, entry.cancel && receiver id)

def recordActor (s : RegistryState) (id : Nat) (actor : AuthenticatedActor)
    (workload : Option WorkloadIdentity) : RegistryState :=
  s.updateEntry id fun entry =>
    { entry with identity := some ⟨actor.domain, actor.subject, workload⟩ }

def beginStream (s : RegistryState) (id : Nat) : Except ConnectionRegistryError RegistryState := do
  let entry ← orErr (s.entries.lookup id) .connectionUnavailable
  ensure (entry.activeStreams < u64Max) .streamCountExhausted
  return s.updateEntry id fun entry => { entry with activeStreams := entry.activeStreams + 1 }

def endStream (s : RegistryState) (id : Nat) : RegistryState :=
  s.updateEntry id fun entry => { entry with activeStreams := entry.activeStreams - 1 }

end RegistryState

inductive ConnectionSelector where
  | id (id : Nat)
  | uid (uid : Nat)
  | systemd (unit : String) (managerUser : Option Nat)

def selectorMatches (id : Nat) (entry : RegistryEntry) : ConnectionSelector → Bool
  | .id expected => id = expected
  | .uid expected => entry.context.peer.uid = some expected
  | .systemd unit managerUser =>
      (entry.identity.bind (·.workload)).any fun identity =>
        identity.unit = unit && identity.managerUser = managerUser

structure ConnectionCancellation where
  matched : Nat
  cancelled : Nat
  alreadyRequested : Nat
  callerExcluded : Nat
  deriving DecidableEq

namespace RegistryState

/-- `cancel_matching`: the caller's own connection is matched but not signalled. -/
def cancelMatching (s : RegistryState) (selectors : List ConnectionSelector)
    (caller : Option Nat) (receiver : Nat → Bool) : RegistryState × ConnectionCancellation :=
  let selected (id : Nat) (entry : RegistryEntry) : Bool := selectors.any (selectorMatches id entry)
  let matching := s.entries.toPairs.filter fun e => selected e.1 e.2
  let (own, others) := matching.partition fun e => caller = some e.1
  let (signalled, requested) := others.partition fun e => e.2.cancel
  ({ s with
      entries := s.entries.mapVal fun id entry =>
        if selected id entry && caller ≠ some id then { entry with cancel := false } else entry },
    { matched := matching.length
      cancelled := (signalled.filter fun e => receiver e.1).length
      alreadyRequested := requested.length
      callerExcluded := own.length })

/-! ### Listener gates -/

def beginListenerTransition (s : RegistryState) (names : List String) :
    Except ConnectionRegistryError RegistryState :=
  match names.find? fun name => name ∈ s.gatedListeners with
  | some name => .error (.listenerGated name)
  | none => .ok { s with gatedListeners := s.gatedListeners ++ names }

theorem beginListenerTransition_eq_ok {s s' : RegistryState} {names : List String} :
    s.beginListenerTransition names = .ok s' ↔
      (∀ name ∈ names, name ∉ s.gatedListeners) ∧
        s' = { s with gatedListeners := s.gatedListeners ++ names } := by
  unfold beginListenerTransition
  split
  · next name hfound =>
    have hmem := List.mem_of_find?_eq_some hfound
    have hgated : name ∈ s.gatedListeners := by simpa using List.find?_some hfound
    constructor
    · nofun
    · exact fun h => absurd hgated (h.1 name hmem)
  · next hnone =>
    have hfree : ∀ name ∈ names, name ∉ s.gatedListeners := by simpa using hnone
    rw [Except.ok.injEq]
    exact ⟨fun h => ⟨hfree, h.symm⟩, fun h => h.2.symm⟩

def endListenerTransition (s : RegistryState) (names : List String) : RegistryState :=
  { s with gatedListeners := s.gatedListeners.filter fun name => name ∉ names }

theorem requiredPeerInfo_uid {cred : UCred} {peer : PeerInfo} (h : requiredPeerInfo cred = some peer) :
    peer.uid = some cred.uid := by
  unfold requiredPeerInfo at h
  split at h
  · cases h
  · split at h
    · cases h
      rfl
    · cases h

theorem register_ok {s : RegistryState} {ceilings : ConnectionCeilings} {cred : Option UCred}
    {name : String} {listenerType : ListenerType} {context : ListenerConnectInfo}
    (h : (s.register ceilings cred name listenerType).2 = .ok context) :
    context.listenerName = name ∧ context.listenerType = listenerType ∧
      ∃ uid, context.peer.uid = some uid := by
  unfold register at h
  cases hchecks : s.registerChecks ceilings cred name listenerType with
  | error e =>
    rw [hchecks] at h
    cases h
  | ok r =>
    simp only [hchecks] at h
    split at h
    · cases h
    · cases h
      simp only [registerChecks, eq_ok] at hchecks
      obtain ⟨_, hpeer, -, -, -, -, -, -, -, -, _, -, heq⟩ := hchecks
      cases heq
      obtain ⟨cred', -, hrequired⟩ := Option.bind_eq_some_iff.mp hpeer
      exact ⟨rfl, rfl, cred'.uid, requiredPeerInfo_uid hrequired⟩

end RegistryState

end Basil.Connection
