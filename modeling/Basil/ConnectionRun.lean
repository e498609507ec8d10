import Basil.Connection
import Basil.Lib.Tally
import Basil.Lib.Trace

/-!
# Counters and ceilings of the connection registry

`Books` ties the counters to the entries and the ceilings; `Tracked` adds what the history of a
run says about identifiers and stream leases.
-/

namespace Basil.Connection

open Table List RegistryState Trace

def RegistryEntry.listener (entry : RegistryEntry) : String := entry.context.listenerName

def RegistryEntry.type (entry : RegistryEntry) : ListenerType := entry.context.listenerType

theorem TypeCounts.get_modify (c : TypeCounts) (f : Nat → Nat) (type other : ListenerType) :
    (c.modify f type).get other = if other = type then f (c.get other) else c.get other := by
  cases type <;> cases other <;> rfl

namespace RegistryState

variable {s : RegistryState} {ceilings : ConnectionCeilings}

/-! ### What registration can do -/

structure Admits (s : RegistryState) (ceilings : ConnectionCeilings) (name : String)
    (type : ListenerType) (rawId : Nat) : Prop where
  ungated : name ∉ s.gatedListeners
  room : s.entries.size < ceilings.maximum
  type_room : s.typeCounts.get type < ceilings.maximumForType type
  listener_room : ∀ count, s.listenerCounts.lookup name = some count →
    count < ceilings.maximumPerListener
  next_eq : s.nextId = some rawId
  unused : s.entries.lookup rawId = none

theorem registerChecks_ok {cred : Option UCred} {name : String} {type : ListenerType}
    {peer : PeerInfo} {rawId : Nat}
    (h : s.registerChecks ceilings cred name type = .ok (peer, rawId))
    (hunused : s.entries.lookup rawId = none) : Admits s ceilings name type rawId := by
  simp only [registerChecks, eq_ok] at h
  obtain ⟨_, -, -, hungated, -, hroom, -, htype, -, hlistener, _, hnext, heq⟩ := h
  cases heq
  refine ⟨hungated, hroom, htype, ?_, hnext, hunused⟩
  intro count hcount
  simpa [hcount] using hlistener

theorem register_cases (s : RegistryState) (ceilings : ConnectionCeilings) (cred : Option UCred)
    (name : String) (type : ListenerType) :
    (∃ next e, s.register ceilings cred name type = ({ s with nextId := next }, .error e) ∧
      (next = s.nextId ∨ next = none)) ∨
    ∃ peer rawId, s.register ceilings cred name type =
        (s.insertEntry ⟨rawId, name, type, peer⟩, .ok ⟨rawId, name, type, peer⟩) ∧
      Admits s ceilings name type rawId := by
  unfold register
  cases hchecks : s.registerChecks ceilings cred name type with
  | error e => exact .inl ⟨s.nextId, e, rfl, .inl rfl⟩
  | ok r =>
    obtain ⟨peer, rawId⟩ := r
    cases hentry : s.entries.lookup rawId with
    | some entry => exact .inl ⟨none, .idExhausted, by simp [hentry], .inr rfl⟩
    | none => exact .inr ⟨peer, rawId, by simp [hentry], registerChecks_ok hchecks hentry⟩

/-! ### The counters -/

structure Books (ceilings : ConnectionCeilings) (s : RegistryState) : Prop where
  listeners : Tallies RegistryEntry.listener s.listenerCounts s.entries
  types : ∀ type, s.typeCounts.get type = s.entries.countBy RegistryEntry.type type
  maximum : s.entries.size ≤ ceilings.maximum
  type_maximum : ∀ type, s.typeCounts.get type ≤ ceilings.maximumForType type
  listener_maximum : ∀ name,
    s.entries.countBy RegistryEntry.listener name ≤ ceilings.maximumPerListener

theorem books_empty (ceilings : ConnectionCeilings) : Books ceilings empty where
  listeners := tallies_empty _
  types := by
    intro type
    cases type <;> rfl
  maximum := Nat.zero_le _
  type_maximum := by
    intro type
    cases type <;> exact Nat.zero_le _
  listener_maximum := fun _ => Nat.zero_le _

theorem Books.insertEntry {name : String} {type : ListenerType} {rawId : Nat}
    (h : Books ceilings s) (hper : 0 < ceilings.maximumPerListener)
    (hadmits : Admits s ceilings name type rawId) (peer : PeerInfo) :
    Books ceilings (s.insertEntry ⟨rawId, name, type, peer⟩) := by
  have hsame := erase_of_lookup_none hadmits.unused
  constructor
  · exact h.listeners.insert (v := ⟨⟨rawId, name, type, peer⟩, none, true, 0⟩) hadmits.unused
  · intro other
    simp only [RegistryState.insertEntry, TypeCounts.get_modify, countBy_insert, hsame,
      RegistryEntry.type, h.types other]
    by_cases heq : other = type
    · simp [heq]
    · simp [heq, Ne.symm heq]
  · simp only [RegistryState.insertEntry, size_insert, hsame]
    exact hadmits.room
  · intro other
    simp only [RegistryState.insertEntry, TypeCounts.get_modify]
    split
    · next heq =>
      subst heq
      exact hadmits.type_room
    · exact h.type_maximum other
  · intro other
    have hle := h.listener_maximum other
    have hinserted : countBy RegistryEntry.listener
          (s.insertEntry ⟨rawId, name, type, peer⟩).entries other =
        s.entries.countBy RegistryEntry.listener other + if name = other then 1 else 0 := by
      refine (countBy_insert _ _ _ _ _).trans ?_
      rw [hsame]
      rfl
    rw [hinserted]
    by_cases heq : name = other
    · subst heq
      rw [if_pos rfl]
      have hcount := h.listeners.count_eq name
      -- a listener without a count is admitted unchecked, and a ceiling is at least one
      cases hstored : s.listenerCounts.lookup name with
      | none =>
        rw [hstored, Option.getD_none] at hcount
        omega
      | some count =>
        have hroom := hadmits.listener_room count hstored
        rw [hstored, Option.getD_some] at hcount
        omega
    · rw [if_neg heq]
      exact hle

theorem release_of_lookup {id : Nat} {entry : RegistryEntry} (h : s.entries.lookup id = some entry) :
    s.release id = { s with
      entries := s.entries.erase id
      typeCounts := s.typeCounts.modify (· - 1) entry.type
      listenerCounts := decrement s.listenerCounts entry.listener } := by
  simp only [release, h, decrement, RegistryEntry.listener]
  cases s.listenerCounts.lookup entry.context.listenerName with
  | none => rfl
  | some count =>
    by_cases hone : 1 < count
    · have hkept : ¬ count - 1 = 0 := by omega
      simp [hone, hkept, RegistryEntry.type]
    · have hgone : count - 1 = 0 := by omega
      simp [hone, hgone, RegistryEntry.type]

theorem Books.release (h : Books ceilings s) (id : Nat) : Books ceilings (s.release id) := by
  cases hentry : s.entries.lookup id with
  | none =>
    simp only [RegistryState.release, hentry]
    exact h
  | some entry =>
    rw [release_of_lookup hentry]
    have htypes (type : ListenerType) := countBy_eq_erase RegistryEntry.type hentry type
    have hlisteners (name : String) := countBy_eq_erase RegistryEntry.listener hentry name
    constructor
    · exact h.listeners.erase hentry
    · intro type
      have hcount := htypes type
      have hstored := h.types type
      simp only [TypeCounts.get_modify]
      by_cases heq : type = entry.type
      · rw [if_pos heq.symm] at hcount
        rw [if_pos heq]
        omega
      · rw [if_neg (Ne.symm heq)] at hcount
        rw [if_neg heq]
        omega
    · exact (size_erase_le s.entries id).trans h.maximum
    · intro type
      have hle := h.type_maximum type
      simp only [TypeCounts.get_modify]
      split <;> omega
    · intro name
      have hle := h.listener_maximum name
      have hcount := hlisteners name
      dsimp only
      omega

theorem Books.mapVal {f : Nat → RegistryEntry → RegistryEntry} (h : Books ceilings s)
    (hcontext : ∀ id entry, (f id entry).context = entry.context) :
    Books ceilings { s with entries := s.entries.mapVal f } := by
  have hlistener := countBy_mapVal RegistryEntry.listener
    (fun id entry => congrArg ListenerConnectInfo.listenerName (hcontext id entry)) s.entries
  have htype := countBy_mapVal RegistryEntry.type
    (fun id entry => congrArg ListenerConnectInfo.listenerType (hcontext id entry)) s.entries
  have hsize := countBy_mapVal (fun _ : RegistryEntry => ()) (f := f)
    (fun _ _ => rfl) s.entries ()
  rw [← size_eq_countBy, ← size_eq_countBy] at hsize
  refine ⟨⟨fun name => ?_, h.listeners.no_zero⟩, fun type => ?_, ?_, h.type_maximum, fun name => ?_⟩
  · rw [hlistener]
    exact h.listeners.count_eq name
  · rw [htype]
    exact h.types type
  · rw [hsize]
    exact h.maximum
  · rw [hlistener]
    exact h.listener_maximum name

theorem Books.host_full (h : Books ceilings s)
    (hfits : ceilings.maximumHost + ceilings.maximumCourier ≤ ceilings.maximum)
    (hfull : ceilings.maximum ≤ s.entries.size) :
    ceilings.maximumHost ≤ s.typeCounts.get .host := by
  have hsplit : s.entries.size =
      s.entries.countBy RegistryEntry.type .host + s.entries.countBy RegistryEntry.type .courier := by
    have hother : ∀ e : Sigma fun _ : Nat => RegistryEntry,
        decide (e.2.type = .courier) = !decide (e.2.type = .host) := by
      intro e
      cases e.2.type <;> rfl
    simp only [size, countBy, hother]
    exact (length_eq_countP_add_countP fun e => decide (e.2.type = .host)).trans (by simp)
  have hcourier := h.type_maximum .courier
  have hhost := h.types .host
  have hcouriers := h.types .courier
  simp only [ConnectionCeilings.maximumForType] at hcourier
  omega

end RegistryState

/-! ### Runs -/

/-- The registry with the stream leases that are still held, one connection id each.
A lease may outlive its connection. -/
structure Transports where
  ceilings : ConnectionCeilings
  registry : RegistryState
  leases : List Nat

inductive ConnectionCall where
  | register (cred : Option UCred) (name : String) (type : ListenerType)
  | release (id : Nat)
  | cancel (id : Nat) (receiver : Nat → Bool)
  | cancelMatching (selectors : List ConnectionSelector) (caller : Option Nat)
      (receiver : Nat → Bool)
  | recordActor (id : Nat) (actor : AuthenticatedActor) (workload : Option WorkloadIdentity)
  | beginStream (id : Nat)
  | endStream (id : Nat)

inductive RegistryCall where
  | connection (call : ConnectionCall)
  | beginTransition (names : List String)
  | endTransition (names : List String)

inductive RegistryReply where
  | registered (result : Except ConnectionRegistryError ListenerConnectInfo)
  | cancelled (delivered : Bool)
  | cancellation (result : ConnectionCancellation)
  | refused (error : ConnectionRegistryError)
  | done

namespace Transports

def serve (t : Transports) : ConnectionCall → Transports × RegistryReply
  | .register cred name type =>
      let r := t.registry.register t.ceilings cred name type
      ({ t with registry := r.1 }, .registered r.2)
  | .release id => ({ t with registry := t.registry.release id }, .done)
  | .cancel id receiver =>
      let r := t.registry.cancel id receiver
      ({ t with registry := r.1 }, .cancelled r.2)
  | .cancelMatching selectors caller receiver =>
      let r := t.registry.cancelMatching selectors caller receiver
      ({ t with registry := r.1 }, .cancellation r.2)
  | .recordActor id actor workload =>
      ({ t with registry := t.registry.recordActor id actor workload }, .done)
  | .beginStream id =>
      match t.registry.beginStream id with
      | .error e => (t, .refused e)
      | .ok registry => ({ t with registry := registry, leases := id :: t.leases }, .done)
  | .endStream id =>
      if id ∈ t.leases then
        ({ t with registry := t.registry.endStream id, leases := t.leases.erase id }, .done)
      else (t, .done)

def step (t : Transports) : RegistryCall → Transports × RegistryReply
  | .connection call => t.serve call
  | .beginTransition names =>
      match t.registry.beginListenerTransition names with
      | .error e => (t, .refused e)
      | .ok registry => ({ t with registry := registry }, .done)
  | .endTransition names => ({ t with registry := t.registry.endListenerTransition names }, .done)

def registeredId : RegistryCall × RegistryReply → Option Nat
  | (_, .registered (.ok context)) => some context.connectionId
  | _ => none

def registeredIds (h : List (RegistryCall × RegistryReply)) : List Nat := h.filterMap registeredId

theorem registeredIds_snoc (h : List (RegistryCall × RegistryReply))
    (e : RegistryCall × RegistryReply) :
    registeredIds (h ++ [e]) = registeredIds h ++ (registeredId e).toList := by
  cases he : registeredId e <;> simp [registeredIds, he]

def Below (next : Option Nat) (id : Nat) : Prop := ∀ n, next = some n → id < n

structure Tracked (h : List (RegistryCall × RegistryReply)) (t : Transports) : Prop where
  books : t.registry.Books t.ceilings
  ids_nodup : (registeredIds h).Nodup
  ids_below : ∀ id ∈ registeredIds h, Below t.registry.nextId id
  entries_below : ∀ id entry, t.registry.entries.lookup id = some entry →
    Below t.registry.nextId id
  leases_below : ∀ id ∈ t.leases, Below t.registry.nextId id
  streams : ∀ id entry, t.registry.entries.lookup id = some entry →
    entry.activeStreams = t.leases.count id

variable {h : List (RegistryCall × RegistryReply)} {t : Transports}
  {e : RegistryCall × RegistryReply}

theorem Tracked.remap {f : Nat → RegistryEntry → RegistryEntry} {leases : List Nat}
    (ht : Tracked h t) (he : registeredId e = none)
    (hcontext : ∀ id entry, (f id entry).context = entry.context)
    (hleases : ∀ id ∈ leases, Below t.registry.nextId id)
    (hstreams : ∀ id entry, t.registry.entries.lookup id = some entry →
      (f id entry).activeStreams = leases.count id) :
    Tracked (h ++ [e]) { t with
      registry := { t.registry with entries := t.registry.entries.mapVal f }, leases := leases } := by
  have hids : registeredIds (h ++ [e]) = registeredIds h := by simp [registeredIds_snoc, he]
  refine ⟨ht.books.mapVal hcontext, ?_, ?_, ?_, hleases, ?_⟩
  · rw [hids]
    exact ht.ids_nodup
  · rw [hids]
    exact ht.ids_below
  · intro id entry hentry
    rw [lookup_mapVal, Option.map_eq_some_iff] at hentry
    obtain ⟨old, hold, -⟩ := hentry
    exact ht.entries_below id old hold
  · intro id entry hentry
    rw [lookup_mapVal, Option.map_eq_some_iff] at hentry
    obtain ⟨old, hold, rfl⟩ := hentry
    exact hstreams id old hold

theorem Tracked.skip {registry : RegistryState} (ht : Tracked h t) (he : registeredId e = none)
    (hbooks : registry.Books t.ceilings)
    (hnext : registry.nextId = t.registry.nextId ∨ registry.nextId = none)
    (hentries : ∀ id entry, registry.entries.lookup id = some entry →
      t.registry.entries.lookup id = some entry) :
    Tracked (h ++ [e]) { t with registry := registry } := by
  have hids : registeredIds (h ++ [e]) = registeredIds h := by simp [registeredIds_snoc, he]
  have hbelow : ∀ id, Below t.registry.nextId id → Below registry.nextId id := by
    intro id hid n hn
    rcases hnext with hsame | hnone
    · exact hid n (hsame.symm.trans hn)
    · rw [hnone] at hn
      cases hn
  refine ⟨hbooks, ?_, ?_, ?_, ?_, ?_⟩
  · rw [hids]
    exact ht.ids_nodup
  · rw [hids]
    exact fun id hid => hbelow id (ht.ids_below id hid)
  · exact fun id entry hentry => hbelow id (ht.entries_below id entry (hentries id entry hentry))
  · exact fun id hid => hbelow id (ht.leases_below id hid)
  · exact fun id entry hentry => ht.streams id entry (hentries id entry hentry)

theorem Tracked.register {cred : Option UCred} {name : String} {type : ListenerType}
    {rawId : Nat} (ht : Tracked h t) (hper : 0 < t.ceilings.maximumPerListener)
    (hadmits : t.registry.Admits t.ceilings name type rawId) (peer : PeerInfo) :
    Tracked (h ++ [(.connection (.register cred name type), .registered (.ok ⟨rawId, name, type, peer⟩))])
      { t with registry := t.registry.insertEntry ⟨rawId, name, type, peer⟩ } := by
  have hfresh : rawId ∉ registeredIds h := by
    intro hmem
    have hlt := ht.ids_below rawId hmem rawId hadmits.next_eq
    omega
  have hunleased : rawId ∉ t.leases := by
    intro hmem
    have hlt := ht.leases_below rawId hmem rawId hadmits.next_eq
    omega
  have hids : registeredIds
      (h ++ [(.connection (.register cred name type), .registered (.ok ⟨rawId, name, type, peer⟩))]) =
        registeredIds h ++ [rawId] := registeredIds_snoc h _
  have hnext : ∀ id, id ≤ rawId →
      Below (t.registry.insertEntry ⟨rawId, name, type, peer⟩).nextId id := by
    intro id hid n hn
    simp only [insertEntry] at hn
    split at hn
    · cases hn
    · cases hn
      omega
  have holder : ∀ id, Below t.registry.nextId id →
      Below (t.registry.insertEntry ⟨rawId, name, type, peer⟩).nextId id := by
    intro id hid
    exact hnext id (Nat.le_of_lt (hid rawId hadmits.next_eq))
  refine ⟨ht.books.insertEntry hper hadmits peer, ?_, ?_, ?_, ?_, ?_⟩
  · rw [hids]
    simpa using ht.ids_nodup.concat hfresh
  · rw [hids]
    intro id hid
    rcases mem_append.mp hid with hold | hnew
    · exact holder id (ht.ids_below id hold)
    · rw [mem_singleton] at hnew
      exact hnext id (Nat.le_of_eq hnew)
  · intro id entry hentry
    simp only [insertEntry, lookup_insert_eq] at hentry
    split at hentry
    · next heq => exact hnext id (Nat.le_of_eq heq)
    · exact holder id (ht.entries_below id entry hentry)
  · exact fun id hid => holder id (ht.leases_below id hid)
  · intro id entry hentry
    simp only [insertEntry, lookup_insert_eq] at hentry
    split at hentry
    · next heq =>
      cases hentry
      subst heq
      exact (count_eq_zero.mpr hunleased).symm
    · exact ht.streams id entry hentry

theorem release_lookup (s : RegistryState) (id other : Nat) :
    (s.release id).entries.lookup other = if other = id then none else s.entries.lookup other := by
  cases hentry : s.entries.lookup id with
  | none =>
    by_cases heq : other = id
    · subst heq
      simp [release, hentry]
    · simp [release, hentry, heq]
  | some entry =>
    rw [release_of_lookup hentry]
    exact lookup_erase_eq s.entries id other

theorem release_nextId (s : RegistryState) (id : Nat) : (s.release id).nextId = s.nextId := by
  unfold release
  split <;> rfl

theorem tracked_serve (h : List (RegistryCall × RegistryReply)) (t : Transports)
    (call : ConnectionCall) (ht : Tracked h t) (hper : 0 < t.ceilings.maximumPerListener) :
    Tracked (h ++ [(.connection call, (serve t call).2)]) (serve t call).1 := by
  cases call with
  | register cred name type =>
    simp only [serve]
    rcases t.registry.register_cases t.ceilings cred name type with
      ⟨next, e, hregister, hnext⟩ | ⟨peer, _, hregister, hadmits⟩
    · rw [hregister]
      exact ht.skip rfl { ht.books with } hnext fun _ _ hentry => hentry
    · rw [hregister]
      exact ht.register hper hadmits peer
  | release id =>
    refine ht.skip rfl (ht.books.release id) (.inl (release_nextId _ id)) ?_
    intro other entry hentry
    rw [release_lookup] at hentry
    split at hentry
    · cases hentry
    · exact hentry
  | cancel =>
    simp only [serve, cancel]
    split
    · exact ht.skip rfl ht.books (.inl rfl) fun _ _ hentry => hentry
    · refine ht.remap rfl ?_ ht.leases_below ?_
      · intro other entry
        split <;> rfl
      · intro other entry hentry
        rw [← ht.streams other entry hentry]
        split <;> rfl
  | cancelMatching | recordActor =>
    refine ht.remap rfl ?_ ht.leases_below ?_
    · intro other entry
      split <;> rfl
    · intro other entry hentry
      rw [← ht.streams other entry hentry]
      split <;> rfl
  | beginStream id =>
    simp only [serve]
    cases hbegin : t.registry.beginStream id with
    | error e => exact ht.skip rfl ht.books (.inl rfl) fun _ _ hentry => hentry
    | ok registry =>
      simp only [beginStream, eq_ok]
        at hbegin
      obtain ⟨opened, hopened, -, -, rfl⟩ := hbegin
      refine ht.remap rfl ?_ ?_ ?_
      · intro other entry
        split <;> rfl
      · intro other hmem
        rcases mem_cons.mp hmem with rfl | hold
        · exact ht.entries_below other opened hopened
        · exact ht.leases_below other hold
      · intro other entry hentry
        have hcount := ht.streams other entry hentry
        by_cases heq : other = id
        · subst heq
          simp [hcount]
        · simp [heq, Ne.symm heq, hcount]
  | endStream id =>
    simp only [serve]
    split
    · next hheld =>
      refine ht.remap rfl ?_ ?_ ?_
      · intro other entry
        split <;> rfl
      · exact fun other hmem => ht.leases_below other (mem_of_mem_erase hmem)
      · intro other entry hentry
        have hcount := ht.streams other entry hentry
        by_cases heq : other = id
        · subst heq
          simp [hcount]
        · simp [heq, count_erase_of_ne, hcount]
    · exact ht.skip rfl ht.books (.inl rfl) fun _ _ hentry => hentry

theorem tracked_step (h : List (RegistryCall × RegistryReply)) (t : Transports)
    (call : RegistryCall) (ht : Tracked h t) (hper : 0 < t.ceilings.maximumPerListener) :
    Tracked (h ++ [(call, (step t call).2)]) (step t call).1 := by
  cases call with
  | connection call => exact tracked_serve h t call ht hper
  | beginTransition names =>
    simp only [step]
    cases hbegin : t.registry.beginListenerTransition names with
    | error e => exact ht.skip rfl ht.books (.inl rfl) fun _ _ hentry => hentry
    | ok registry =>
      obtain ⟨-, rfl⟩ := beginListenerTransition_eq_ok.mp hbegin
      exact ht.skip rfl { ht.books with } (.inl rfl) fun _ _ hentry => hentry
  | endTransition =>
    exact ht.skip rfl { ht.books with } (.inl rfl) fun _ _ hentry => hentry

theorem serve_ceilings (t : Transports) (call : ConnectionCall) :
    (serve t call).1.ceilings = t.ceilings := by
  cases call with
  | beginStream | endStream =>
    simp only [serve]
    split <;> rfl
  | _ => rfl

theorem step_ceilings (t : Transports) (call : RegistryCall) :
    (step t call).1.ceilings = t.ceilings := by
  cases call with
  | connection call => exact serve_ceilings t call
  | beginTransition =>
    simp only [step]
    split <;> rfl
  | endTransition => rfl

theorem tracked_run (ceilings : ConnectionCeilings) (hper : 0 < ceilings.maximumPerListener)
    (calls : List RegistryCall) :
    (final step ⟨ceilings, .empty, []⟩ calls).ceilings = ceilings ∧
      Tracked (events step ⟨ceilings, .empty, []⟩ calls)
        (final step ⟨ceilings, .empty, []⟩ calls) := by
  refine history (fun h t => t.ceilings = ceilings ∧ Tracked h t) ?_ ?_ calls
  · rintro h t call ⟨rfl, ht⟩
    exact ⟨step_ceilings t call, tracked_step h t call ht hper⟩
  · refine ⟨rfl, books_empty ceilings, nodup_nil, ?_, ?_, ?_, ?_⟩
    · intro id hid
      cases hid
    · intro id entry hentry
      cases hentry
    · intro id hid
      cases hid
    · intro id entry hentry
      cases hentry

theorem register_globalLimit {s : RegistryState} {ceilings : ConnectionCeilings}
    {cred : Option UCred} {name : String} {type : ListenerType}
    (h : (s.register ceilings cred name type).2 = .error .globalLimit) :
    ceilings.maximum ≤ s.entries.size := by
  by_contra hroom
  rw [Nat.not_le] at hroom
  cases hchecks : s.registerChecks ceilings cred name type with
  | ok r =>
    simp only [register, hchecks] at h
    split at h
    · cases h
    · cases h
  | error e =>
    simp only [register, hchecks, Except.error.injEq] at h
    subst h
    -- every other check answers with an error of its own
    simp only [registerChecks, bind_pure_comp, bind_eq_error, orErr_eq_error,
      reduceCtorEq, and_false, eq_ok, ensure_eq_error, not_lt, Nat.not_le.mpr hroom, and_true,
      exists_const, false_or] at hchecks
    obtain ⟨_, -, -, -, -, -, hid⟩ := hchecks
    cases hnext : s.nextId with
    | none | some => simp [hnext, orErr] at hid

theorem registry_accounts (ceilings : ConnectionCeilings) (registry : RegistryState)
    (hstart : withCeilings ceilings = .ok registry) (calls : List RegistryCall) :
    let t := final step ⟨ceilings, registry, []⟩ calls
    (∀ name, (t.registry.listenerCounts.lookup name).getD 0 =
      t.registry.entries.countBy RegistryEntry.listener name) ∧
    (∀ type, t.registry.typeCounts.get type = t.registry.entries.countBy RegistryEntry.type type) ∧
    t.registry.entries.size ≤ ceilings.maximum ∧
    (∀ type, t.registry.entries.countBy RegistryEntry.type type ≤ ceilings.maximumForType type) ∧
    (∀ name, t.registry.entries.countBy RegistryEntry.listener name ≤
      ceilings.maximumPerListener) ∧
    (registeredIds (events step ⟨ceilings, registry, []⟩ calls)).Nodup ∧
    (∀ id entry, t.registry.entries.lookup id = some entry →
      entry.activeStreams = t.leases.count id) ∧
    (ceilings.maximumHost + ceilings.maximumCourier ≤ ceilings.maximum →
      ∀ cred name, (t.registry.register ceilings cred name .host).2 = .error .globalLimit →
        ceilings.maximumHost ≤ t.registry.typeCounts.get .host) := by
  intro t
  simp only [withCeilings, eq_ok] at hstart
  obtain ⟨-, hcoherent, rfl⟩ := hstart
  have hper : 0 < ceilings.maximumPerListener := by
    simp only [ConnectionCeilings.isCoherent, Bool.and_eq_true, bne_iff_ne] at hcoherent
    omega
  obtain ⟨hceilings, htracked⟩ := tracked_run ceilings hper calls
  have hbooks := htracked.books
  rw [hceilings] at hbooks
  refine ⟨hbooks.listeners.count_eq, hbooks.types, hbooks.maximum, ?_, hbooks.listener_maximum,
    htracked.ids_nodup, htracked.streams, ?_⟩
  · intro type
    rw [← hbooks.types type]
    exact hbooks.type_maximum type
  · intro hfits cred name hrefused
    exact hbooks.host_full hfits (register_globalLimit hrefused)

def mixedCalls : List RegistryCall :=
  [.connection (.register (some ⟨some 4242, 1000, 1000⟩) "host" .host),
    .connection (.register (some ⟨some 4243, 1001, 1001⟩) "ci" .courier),
    .connection (.beginStream 1), .connection (.beginStream 2), .connection (.beginStream 1),
    .connection (.cancel 2 fun _ => true), .connection (.release 2),
    .connection (.endStream 1), .connection (.endStream 2),
    .connection (.register (some ⟨some 4244, 1001, 1001⟩) "ci" .courier)]

theorem mixed_calls_accounts :
    let t := final step ⟨⟨2, 2, 1, 1⟩, .empty, []⟩ mixedCalls
    t.registry.entries.size = 2 ∧ t.leases = [1] ∧
      (t.registry.entries.lookup 1).map (·.activeStreams) = some 1 ∧
      registeredIds (events step ⟨⟨2, 2, 1, 1⟩, .empty, []⟩ mixedCalls) = [1, 2, 3] ∧
      1 ≤ t.registry.typeCounts.get .host := by
  intro t
  have haccounts := registry_accounts ⟨2, 2, 1, 1⟩ .empty rfl mixedCalls
  obtain ⟨-, -, -, -, -, -, -, hreserved⟩ := haccounts
  exact ⟨by decide +kernel, by decide +kernel, by decide +kernel, by decide +kernel,
    hreserved (by decide) (some ⟨some 4245, 1000, 1000⟩) "host" rfl⟩

end Transports

end Basil.Connection
