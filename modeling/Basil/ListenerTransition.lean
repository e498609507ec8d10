import Mathlib.Data.List.Sort
import Basil.ConnectionRun

/-!
# Listener transitions (`transport/listener_manager.rs`, `transport/grpc_server.rs`)

Several transitions and all connections interleave. What the socket preparation finds on the file
system is an input.
-/

namespace Basil.ListenerTransition

open Connection RegistryState List

/-! ### Assessment -/

inductive ListenerChangeKind where
  | add
  | remove
  | reconfigure
  deriving DecidableEq

structure ListenerImpact where
  name : String
  kind : ListenerChangeKind
  activeConnections : Nat
  previousPath : Option String
  newPath : Option String
  deriving DecidableEq

def ListenerImpact.disruptive (impact : ListenerImpact) : Bool := impact.kind ≠ .add

def activeForListener (s : RegistryState) (name : String) : Nat :=
  (s.listenerCounts.lookup name).getD 0

def changeOf (candidate : ListenerConfigSet) (listener : ListenerConfig) :
    Option (ListenerChangeKind × Option String) :=
  match candidate.get? listener.name with
  | none => some (.remove, none)
  | some replacement =>
      if replacement ≠ listener then some (.reconfigure, some replacement.path) else none

def assessTransition (current candidate : ListenerConfigSet) (s : RegistryState) :
    List ListenerImpact :=
  let changed := current.configs.filterMap fun listener =>
    (changeOf candidate listener).map fun change =>
      { name := listener.name
        kind := change.1
        activeConnections := activeForListener s listener.name
        previousPath := some listener.path
        newPath := change.2 : ListenerImpact }
  let added := (candidate.configs.filter fun listener => (current.get? listener.name).isNone).map
    fun listener =>
      { name := listener.name
        kind := .add
        activeConnections := 0
        previousPath := none
        newPath := some listener.path : ListenerImpact }
  (changed ++ added).insertionSort fun left right => left.name ≤ right.name

def requireZeroActive (impacts : List ListenerImpact) : Except (List ListenerImpact) Unit :=
  let blocking := impacts.filter fun impact =>
    impact.disruptive && impact.activeConnections != 0
  ensure (blocking = []) blocking

def disruptiveNames (impacts : List ListenerImpact) : List String :=
  (impacts.filter ListenerImpact.disruptive).map ListenerImpact.name

structure ListenerTransitionGuard where
  names : List String
  active : List (String × Nat)

def ListenerTransitionGuard.activeForListener (guard : ListenerTransitionGuard) (name : String) :
    Nat :=
  (guard.active.lookup name).getD 0

/-- `begin_listener_transition`: the gates close and the counts are read under one lock. -/
def closeGates (s : RegistryState) (names : List String) :
    Except ConnectionRegistryError (RegistryState × ListenerTransitionGuard) := do
  let gated ← s.beginListenerTransition names
  return (gated, ⟨names, names.map fun name => (name, activeForListener s name)⟩)

def refreshImpacts (guard : ListenerTransitionGuard) (impacts : List ListenerImpact) :
    List ListenerImpact :=
  impacts.map fun impact =>
    if impact.disruptive then
      { impact with activeConnections := guard.activeForListener impact.name }
    else impact

/-! ### The runtime -/

/-- Where a call of `transition` stands. `closing` is decided, with the runtime's mutex
given back and the guard still held. -/
inductive Phase where
  | gated
  | ready
  | installing
  | committed
  | closing
  deriving DecidableEq

structure Transition where
  current : ListenerConfigSet
  candidate : ListenerConfigSet
  impacts : List ListenerImpact
  guard : ListenerTransitionGuard
  phase : Phase

structure ListenerRuntime where
  transports : Transports
  initialized : Bool
  lockedBy : Option Nat
  transitions : Table Nat Transition
  nextToken : Nat

inductive ListenerTransitionError where
  | registry (error : ConnectionRegistryError)
  | active (impacts : List ListenerImpact)
  | notActive
  | preparation
  | abandoned

inductive Action where
  | connection (call : ConnectionCall)
  | activate
  | begin (current candidate : ListenerConfigSet)
  | validate (token : Nat)
  | lock (token : Nat)
  | install (token : Nat) (prepared : Bool)
  | retire (token : Nat)
  | abandon (token : Nat)
  | drop (token : Nat)

inductive Reply where
  | connection (reply : RegistryReply)
  | moved (phase : Phase)
  | committed
  | failed (error : ListenerTransitionError)
  | dropped
  | ignored

namespace ListenerRuntime

def setPhase (r : ListenerRuntime) (token : Nat) (phase : Phase) : ListenerRuntime :=
  { r with transitions := r.transitions.modify token fun t => { t with phase := phase } }

def fail (r : ListenerRuntime) (token : Nat) (error : ListenerTransitionError) :
    ListenerRuntime × Reply :=
  ({ r.setPhase token .closing with
      lockedBy := if r.lockedBy = some token then none else r.lockedBy }, .failed error)

def whenAt (r : ListenerRuntime) (token : Nat) (phase : Phase)
    (f : Transition → ListenerRuntime × Reply) : ListenerRuntime × Reply :=
  match r.transitions.lookup token with
  | none => (r, .ignored)
  | some t => if t.phase = phase then f t else (r, .ignored)

def begin (r : ListenerRuntime) (current candidate : ListenerConfigSet) :
    ListenerRuntime × Reply :=
  let impacts := assessTransition current candidate r.transports.registry
  match closeGates r.transports.registry (disruptiveNames impacts) with
  | .error e => (r, .failed (.registry e))
  | .ok (registry, guard) =>
      ({ r with
          transports := { r.transports with registry := registry }
          transitions := r.transitions.insert r.nextToken
            ⟨current, candidate, refreshImpacts guard impacts, guard, .gated⟩
          nextToken := r.nextToken + 1 }, .moved .gated)

def step (r : ListenerRuntime) : Action → ListenerRuntime × Reply
  | .connection call =>
      let served := r.transports.serve call
      ({ r with transports := served.1 }, .connection served.2)
  | .activate =>
      if r.lockedBy = none then ({ r with initialized := true }, .ignored) else (r, .ignored)
  | .begin current candidate => r.begin current candidate
  | .validate token =>
      r.whenAt token .gated fun t =>
        match requireZeroActive t.impacts with
        | .error blocking => r.fail token (.active blocking)
        | .ok () => (r.setPhase token .ready, .moved .ready)
  | .lock token =>
      r.whenAt token .ready fun _ =>
        if r.lockedBy = none then
          if r.initialized then
            ({ r.setPhase token .installing with lockedBy := some token }, .moved .installing)
          else r.fail token .notActive
        else (r, .ignored)
  -- `prepared`: preflight, publication, exchange and the precommit hook all succeeded
  | .install token prepared =>
      r.whenAt token .installing fun _ =>
        if prepared then (r.setPhase token .committed, .committed) else r.fail token .preparation
  | .retire token =>
      r.whenAt token .committed fun _ =>
        ({ r.setPhase token .closing with lockedBy := none }, .moved .closing)
  -- the caller may drop the future at any of its awaits
  | .abandon token =>
      match r.transitions.lookup token with
      | none => (r, .ignored)
      | some t => if t.phase = .closing then (r, .ignored) else r.fail token .abandoned
  | .drop token =>
      r.whenAt token .closing fun t =>
        ({ r with
            transports := { r.transports with
              registry := r.transports.registry.endListenerTransition t.guard.names }
            transitions := r.transitions.erase token }, .dropped)

def start (ceilings : ConnectionCeilings) (registry : RegistryState) : ListenerRuntime :=
  ⟨⟨ceilings, registry, []⟩, false, none, ∅, 0⟩

end ListenerRuntime

/-! ### What the guard holds -/

def Changes (current candidate : ListenerConfigSet) (name : String) : Prop :=
  ∃ listener ∈ current.configs, listener.name = name ∧ candidate.get? name ≠ some listener

variable {candidate : ListenerConfigSet} {s : RegistryState} {name : String}

theorem changeOf_eq_some {listener : ListenerConfig} :
    (∃ change, changeOf candidate listener = some change) ↔
      candidate.get? listener.name ≠ some listener := by
  unfold changeOf
  cases candidate.get? listener.name with
  | none => simp
  | some replacement =>
    by_cases heq : replacement = listener
    · simp [heq]
    · simp [heq]

theorem changeOf_kind {listener : ListenerConfig} {change : ListenerChangeKind × Option String}
    (h : changeOf candidate listener = some change) : change.1 ≠ .add := by
  unfold changeOf at h
  split at h
  · cases h
    simp
  · split at h
    · cases h
      simp
    · cases h

theorem mem_disruptiveNames {current : ListenerConfigSet} :
    name ∈ disruptiveNames (assessTransition current candidate s) ↔
      Changes current candidate name := by
  simp only [disruptiveNames, assessTransition, mem_map, mem_filter, mem_insertionSort,
    mem_append, mem_filterMap, Option.map_eq_some_iff]
  constructor
  · rintro ⟨_, ⟨⟨listener, hmem, change, hchange, rfl⟩ | ⟨listener, -, rfl⟩, hdisruptive⟩, rfl⟩
    · exact ⟨listener, hmem, rfl, changeOf_eq_some.mp ⟨change, hchange⟩⟩
    · simp [ListenerImpact.disruptive] at hdisruptive
  · rintro ⟨listener, hmem, rfl, hchanged⟩
    obtain ⟨change, hchange⟩ := changeOf_eq_some.mpr hchanged
    refine ⟨_, ⟨.inl ⟨listener, hmem, change, hchange, rfl⟩, ?_⟩, rfl⟩
    simpa [ListenerImpact.disruptive] using changeOf_kind hchange

theorem lookup_map_self {names : List String} (f : String → Nat) (h : name ∈ names) :
    (names.map fun n => (n, f n)).lookup name = some (f name) := by
  induction names with
  | nil => cases h
  | cons n names ih =>
    rw [map_cons, lookup_cons]
    by_cases heq : name = n
    · simp [heq]
    · have hne : (name == n) = false := by simpa using heq
      rw [hne]
      rcases mem_cons.mp h with hhead | htail
      · exact absurd hhead heq
      · exact ih htail

theorem closeGates_eq_ok {gated : RegistryState} {names : List String}
    {guard : ListenerTransitionGuard} (h : closeGates s names = .ok (gated, guard)) :
    (∀ name ∈ names, name ∉ s.gatedListeners) ∧
      gated = { s with gatedListeners := s.gatedListeners ++ names } ∧ guard.names = names ∧
      ∀ name ∈ names, guard.activeForListener name = activeForListener s name := by
  simp only [closeGates, eq_ok, beginListenerTransition_eq_ok, Prod.mk.injEq] at h
  obtain ⟨_, ⟨hfree, rfl⟩, rfl, rfl⟩ := h
  refine ⟨hfree, rfl, rfl, ?_⟩
  intro name hname
  rw [ListenerTransitionGuard.activeForListener, lookup_map_self _ hname, Option.getD_some]

theorem requireZeroActive_refreshed {guard : ListenerTransitionGuard}
    {impacts : List ListenerImpact} (h : requireZeroActive (refreshImpacts guard impacts) = .ok ())
    (hname : name ∈ disruptiveNames impacts) : guard.activeForListener name = 0 := by
  simp only [requireZeroActive, ensure_eq_ok, filter_eq_nil_iff] at h
  simp only [disruptiveNames, mem_map, mem_filter] at hname
  obtain ⟨impact, ⟨hmem, hdisruptive⟩, rfl⟩ := hname
  have hzero := h _ (mem_map.mpr ⟨impact, hmem, rfl⟩)
  rw [if_pos hdisruptive] at hzero
  have hstill : ListenerImpact.disruptive
      { impact with activeConnections := guard.activeForListener impact.name } = true := hdisruptive
  simpa [hstill] using hzero

/-! ### What a connection can do to the gates -/

theorem register_gated (h : name ∈ s.gatedListeners) (ceilings : ConnectionCeilings)
    (cred : Option UCred) (type : ListenerType) :
    ∃ e, s.register ceilings cred name type = (s, .error e) := by
  have hchecks : ∃ e, s.registerChecks ceilings cred name type = .error e := by
    cases hpeer : cred.bind requiredPeerInfo with
    | none =>
      refine ⟨.peerCredentials, ?_⟩
      simp only [registerChecks, hpeer, orErr]
      rfl
    | some peer =>
      refine ⟨.listenerGated name, ?_⟩
      simp [registerChecks, hpeer, orErr, ensure_neg (not_not.mpr h)]
  obtain ⟨e, he⟩ := hchecks
  exact ⟨e, by simp [register, he]⟩

theorem serve_registry (t : Transports) (call : ConnectionCall) :
    (∃ next, (t.serve call).1.registry = { t.registry with nextId := next }) ∨
    (∃ name type peer rawId, t.registry.Admits t.ceilings name type rawId ∧
      (t.serve call).1.registry = t.registry.insertEntry ⟨rawId, name, type, peer⟩) ∨
    (∃ id, (t.serve call).1.registry = t.registry.release id) ∨
    ∃ f : Nat → RegistryEntry → RegistryEntry, (∀ id entry, (f id entry).context = entry.context) ∧
      (t.serve call).1.registry = { t.registry with entries := t.registry.entries.mapVal f } := by
  have hsame : ∃ next, t.registry = { t.registry with nextId := next } := ⟨t.registry.nextId, rfl⟩
  cases call with
  | register cred name type =>
    rcases t.registry.register_cases t.ceilings cred name type with
      ⟨next, e, hregister, -⟩ | ⟨peer, rawId, hregister, hadmits⟩
    · exact .inl ⟨next, congrArg Prod.fst hregister⟩
    · exact .inr (.inl ⟨name, type, peer, rawId, hadmits, congrArg Prod.fst hregister⟩)
  | release id => exact .inr (.inr (.inl ⟨id, rfl⟩))
  | cancel =>
    simp only [Transports.serve, cancel]
    split
    · exact .inl hsame
    · refine .inr (.inr (.inr ⟨_, ?_, rfl⟩))
      intro other entry
      split <;> rfl
  | cancelMatching | recordActor =>
    refine .inr (.inr (.inr ⟨_, ?_, rfl⟩))
    intro other entry
    split <;> rfl
  | beginStream id =>
    simp only [Transports.serve]
    cases hbegin : t.registry.beginStream id with
    | error e => exact .inl hsame
    | ok registry =>
      simp only [beginStream, eq_ok]
        at hbegin
      obtain ⟨_, -, -, -, rfl⟩ := hbegin
      refine .inr (.inr (.inr ⟨_, ?_, rfl⟩))
      intro other entry
      split <;> rfl
  | endStream =>
    simp only [Transports.serve]
    split
    · refine .inr (.inr (.inr ⟨_, ?_, rfl⟩))
      intro other entry
      split <;> rfl
    · exact .inl hsame

def live (s : RegistryState) (name : String) : Nat := s.entries.countBy RegistryEntry.listener name

structure Served (ceilings : ConnectionCeilings) (s s' : RegistryState) : Prop where
  books : s'.Books ceilings
  gates_eq : s'.gatedListeners = s.gatedListeners
  live_le : ∀ name ∈ s.gatedListeners, live s' name ≤ live s name

theorem serve_served {t : Transports} (hbooks : t.registry.Books t.ceilings)
    (hper : 0 < t.ceilings.maximumPerListener) (call : ConnectionCall) :
    Served t.ceilings t.registry (t.serve call).1.registry := by
  rcases serve_registry t call with ⟨_, heq⟩ | ⟨name, type, peer, rawId, hadmits, heq⟩ |
    ⟨id, heq⟩ | ⟨_, hcontext, heq⟩
  · rw [heq]
    exact ⟨{ hbooks with }, rfl, fun _ _ => Nat.le_refl _⟩
  · rw [heq]
    refine ⟨hbooks.insertEntry hper hadmits peer, rfl, ?_⟩
    -- a gated listener is not the one that admitted the connection
    intro other hgated
    have hne : ¬ name = other := by
      rintro rfl
      exact hadmits.ungated hgated
    have hcount : live (t.registry.insertEntry ⟨rawId, name, type, peer⟩) other =
        Table.countBy RegistryEntry.listener (t.registry.entries.erase rawId) other +
          if name = other then 1 else 0 := Table.countBy_insert _ _ _ _ _
    rw [hcount, if_neg hne, Table.erase_of_lookup_none hadmits.unused]
    exact Nat.le_refl _
  · rw [heq]
    refine ⟨hbooks.release id, ?_, ?_⟩
    · unfold release
      split <;> rfl
    · intro name _
      cases hentry : t.registry.entries.lookup id with
      | none =>
        simp only [release, hentry]
        exact Nat.le_refl _
      | some entry =>
        rw [release_of_lookup hentry]
        have hcount := Table.countBy_eq_erase RegistryEntry.listener hentry name
        simp only [live]
        omega
  · rw [heq]
    refine ⟨hbooks.mapVal hcontext, rfl, fun name _ => Nat.le_of_eq ?_⟩
    exact Table.countBy_mapVal RegistryEntry.listener
      (fun id entry => congrArg ListenerConnectInfo.listenerName (hcontext id entry)) _ name

end Basil.ListenerTransition
