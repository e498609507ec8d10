import Basil.CiRuleSelection
import Basil.ListenerTransitionRun
import Basil.ReloadEngine

/-!
# What holds of every interleaving of reloads

Swaps follow one another without a lost update, a reload that does not swap changes nothing that
is served, and a dry run answers as the reload it stands for.
-/

namespace Basil.Reload

open CiFederation ListenerTransition ListenerRuntime List Trace

variable {env : FederationEnv}

def swaps (events : List (Action env × Reply env)) : List (Swap env) :=
  events.filterMap fun e => e.2.swap?

def decisions (events : List (Action env × Reply env)) : List Nat :=
  events.filterMap fun e => e.2.decides

theorem swaps_concat (events : List (Action env × Reply env)) (action : Action env)
    (reply : Reply env) : swaps (events ++ [(action, reply)]) = swaps events ++ reply.swap?.toList := by
  cases h : reply.swap? <;> simp [swaps, h]

theorem decisions_concat (events : List (Action env × Reply env)) (action : Action env)
    (reply : Reply env) :
    decisions (events ++ [(action, reply)]) = decisions events ++ reply.decides.toList := by
  cases h : reply.decides <;> simp [decisions, h]

def SwapsFrom (g : ServingGeneration env) : List (Swap env) → ServingGeneration env → Prop
  | [], g' => g' = g
  | s :: rest, g' =>
      s.previous = g ∧ s.outcome.previousGeneration = g.id ∧ s.outcome.newGeneration = s.next.id ∧
        s.next.id = satAddU64 g.id 1 ∧ SwapsFrom s.next rest g'

theorem swapsFrom_append {g g' : ServingGeneration env} {earlier later : List (Swap env)} :
    SwapsFrom g (earlier ++ later) g' ↔ ∃ mid, SwapsFrom g earlier mid ∧ SwapsFrom mid later g' := by
  induction earlier generalizing g with
  | nil => simp [SwapsFrom]
  | cons s earlier ih =>
    simp only [cons_append, SwapsFrom, ih]
    constructor
    · rintro ⟨hprevious, hfrom, hto, hid, mid, hearlier, hlater⟩
      exact ⟨mid, ⟨hprevious, hfrom, hto, hid, hearlier⟩, hlater⟩
    · rintro ⟨mid, ⟨hprevious, hfrom, hto, hid, hearlier⟩, hlater⟩
      exact ⟨hprevious, hfrom, hto, hid, mid, hearlier, hlater⟩

theorem satAddU64_succ (a k : Nat) : satAddU64 (satAddU64 a 1) k = satAddU64 a (k + 1) := by
  unfold satAddU64
  omega

theorem SwapsFrom.ids {g g' : ServingGeneration env} {list : List (Swap env)}
    (h : SwapsFrom g list g') :
    list.map (fun s => s.next.id) = (range list.length).map fun k => satAddU64 g.id (k + 1) := by
  induction list generalizing g with
  | nil => rfl
  | cons s rest ih =>
    obtain ⟨-, -, -, hid, hrest⟩ := h
    rw [map_cons, ih hrest, length_cons, range_succ_eq_map, map_cons,
      map_map, hid]
    refine congrArg _ (map_congr_left fun k _ => ?_)
    exact satAddU64_succ g.id (k + 1)

namespace Broker

/-! ### Swaps -/

variable {b b' : Broker env} {events : List (Action env × Reply env)} {id : Nat} {stage : Stage env}
  {reply : Reply env}

theorem swapsFrom_step (h : Serialized b) (action : Action env) :
    SwapsFrom b.generation (b.step action).2.swap?.toList (b.step action).1.generation := by
  rcases h.step_serving action with ⟨hnone, hsame⟩ | ⟨_, _, hfresh, hswap, hserving⟩
  · rw [hnone]
    exact hsame.generation_eq
  · obtain ⟨_, _, rfl, -, -⟩ := hfresh
    rw [hswap]
    exact ⟨rfl, rfl, rfl, rfl, hserving.generation_eq⟩

theorem swaps_run (h : Serialized b) (actions : List (Action env)) :
    SwapsFrom b.generation (swaps (Trace.events step b actions))
      (Trace.final step b actions).generation ∧ Serialized (Trace.final step b actions) := by
  have hinit : SwapsFrom b.generation (swaps []) b.generation ∧ Serialized b := ⟨rfl, h⟩
  refine Trace.history (fun events b' => SwapsFrom b.generation (swaps events) b'.generation ∧
    Serialized b') ?_ hinit actions
  rintro events b' action ⟨hswaps, hserialized⟩
  refine ⟨?_, serialized_effect hserialized (step_effect action)⟩
  rw [swaps_concat]
  exact swapsFrom_append.mpr ⟨_, hswaps, swapsFrom_step hserialized action⟩

/-! ### Decisions -/

structure Decided (events : List (Action env × Reply env)) (b : Broker env) : Prop where
  below : ∀ id stage, b.attempts.lookup id = some stage → id < b.nextAttempt
  ended : ∀ id ∈ decisions events, id < b.nextAttempt ∧
    ∀ stage, b.attempts.lookup id = some stage → stage.decided = true
  nodup : (decisions events).Nodup

section Decided

variable (h : Decided events b)
include h

theorem Decided.fresh (hlookup : b.attempts.lookup id = some stage)
    (hundecided : stage.decided = false) : id ∉ decisions events := by
  intro hmem
  have hdecided := (h.ended id hmem).2 stage hlookup
  rw [hundecided] at hdecided
  cases hdecided

theorem Decided.extend (action : Action env) (hnext : b.nextAttempt ≤ b'.nextAttempt)
    (hstages : ∀ id stage, b'.attempts.lookup id = some stage → id < b'.nextAttempt ∧
      (id ∈ decisions events ∨ reply.decides = some id → stage.decided = true))
    (hnew : ∀ id, reply.decides = some id → id < b'.nextAttempt ∧ id ∉ decisions events) :
    Decided (events ++ [(action, reply)]) b' := by
  have hmem : ∀ id, id ∈ decisions (events ++ [(action, reply)]) ↔
      id ∈ decisions events ∨ reply.decides = some id := by
    intro id
    rw [decisions_concat, mem_append, Option.mem_toList]
  refine ⟨fun id stage hlookup => (hstages id stage hlookup).1, ?_, ?_⟩
  · intro id hid
    have hold := (hmem id).mp hid
    refine ⟨?_, fun stage hlookup => (hstages id stage hlookup).2 hold⟩
    rcases hold with hold | hold
    · exact Nat.lt_of_lt_of_le (h.ended id hold).1 hnext
    · exact (hnew id hold).1
  · rw [decisions_concat]
    cases hdecides : reply.decides with
    | none => simpa using h.nodup
    | some id =>
      rw [Option.toList_some, nodup_append_comm]
      exact nodup_cons.mpr ⟨(hnew id hdecides).2, h.nodup⟩

theorem Decided.kept (hlookup : b.attempts.lookup id = some stage) {other : Nat} (hne : id ≠ other)
    {decided : Option Nat} (hdecided : decided = none ∨ decided = some other) :
    id < b.nextAttempt ∧ (id ∈ decisions events ∨ decided = some id → stage.decided = true) := by
  refine ⟨h.below id stage hlookup, ?_⟩
  rintro (hmem | hnow)
  · exact (h.ended id hmem).2 stage hlookup
  · exact absurd (by simpa [hnow] using hdecided) hne

theorem Decided.insert (action : Action env) {stage' : Stage env}
    (hlookup : b.attempts.lookup id = some stage) (hundecided : stage.decided = false)
    (hattempts : b'.attempts = b.attempts.insert id stage') (hnext : b'.nextAttempt = b.nextAttempt)
    (hdecides : reply.decides = if stage'.decided then some id else none) :
    Decided (events ++ [(action, reply)]) b' := by
  have hfresh := h.fresh hlookup hundecided
  have hcases : reply.decides = none ∨ reply.decides = some id := by
    rw [hdecides]
    cases stage'.decided
    · exact .inl rfl
    · exact .inr rfl
  refine h.extend action hnext.ge ?_ ?_
  · intro other stage₁ hother
    rw [hattempts, Table.lookup_insert_eq] at hother
    rw [hnext]
    split at hother
    · next heq =>
      cases hother
      rw [heq]
      refine ⟨h.below id stage hlookup, ?_⟩
      rintro (hmem | hnow)
      · exact absurd hmem hfresh
      · rw [hdecides] at hnow
        split at hnow
        · assumption
        · cases hnow
    · next hne => exact h.kept hother hne hcases
  · intro other hnow
    obtain rfl : other = id := by simpa [hnow] using hcases
    exact ⟨hnext ▸ h.below other stage hlookup, hfresh⟩

theorem Decided.erase (action : Action env) (hlookup : b.attempts.lookup id = some stage)
    (hattempts : b'.attempts = b.attempts.erase id) (hnext : b'.nextAttempt = b.nextAttempt)
    (hdecides : reply.decides = none ∨ stage.decided = false ∧ reply.decides = some id) :
    Decided (events ++ [(action, reply)]) b' := by
  refine h.extend action hnext.ge ?_ ?_
  · intro other stage₁ hother
    rw [hattempts, Table.lookup_erase_eq] at hother
    rw [hnext]
    split at hother
    · cases hother
    · next hne => exact h.kept hother hne (hdecides.imp_right And.right)
  · intro other hnow
    obtain ⟨hundecided, rfl⟩ : stage.decided = false ∧ other = id := by simpa [hnow] using hdecides
    exact ⟨hnext ▸ h.below other stage hlookup, h.fresh hlookup hundecided⟩

theorem decided_step (action : Action env) :
    Decided (events ++ [(action, (b.step action).2)]) (b.step action).1 := by
  have heffect := step_effect (b := b) action
  generalize (b.step action).2 = reply at heffect ⊢
  cases heffect with
  | idle serving attempts lock next quiet =>
    refine h.extend action next.ge ?_ (by simp [quiet])
    intro id stage hlookup
    rw [attempts] at hlookup
    rw [next]
    exact h.kept hlookup (Nat.succ_ne_self id).symm (.inl quiet)
  | start serving attempts lock next quiet =>
    refine h.extend action (next ▸ Nat.le_succ _) ?_ (by simp [quiet])
    intro id stage hlookup
    rw [attempts, Table.lookup_insert_eq] at hlookup
    rw [next, quiet]
    split at hlookup
    · next heq =>
      rw [heq]
      refine ⟨Nat.lt_succ_self _, ?_⟩
      rintro (hmem | hnow)
      · exact absurd (h.ended _ hmem).1 (Nat.lt_irrefl _)
      · cases hnow
    · next hne =>
      obtain ⟨hlt, hdecided⟩ := h.kept hlookup hne (.inl rfl)
      exact ⟨Nat.lt_succ_of_lt hlt, hdecided⟩
  | acquire id waiting free serving attempts lock next quiet =>
    exact h.insert action waiting rfl attempts next quiet
  | advance id stage stage' lookup inside undecided serving attempts lock next candidate swap
      decides => exact h.insert action lookup undecided attempts next decides
  | finish id stage lookup inside serving attempts lock next swap decides =>
    refine h.erase action lookup attempts next ?_
    rw [decides]
    cases stage.decided
    · exact .inr ⟨rfl, rfl⟩
    · exact .inl rfl
  | swap id stage stage' c lookup inside candidate serving attempts decided lock next =>
    have hundecided : stage.decided = false := by
      cases hdecided : stage.decided with
      | false => rfl
      | true =>
        rw [candidate_of_decided hdecided] at candidate
        cases candidate
    refine h.insert action lookup hundecided attempts next ?_
    rw [decided]
    rfl
  | cancel id waiting serving attempts lock next quiet =>
    exact h.erase action waiting attempts next (.inl quiet)

end Decided

end Broker

/-! ### A transition that is alone -/

theorem refreshImpacts_assess {current candidate : ListenerConfigSet}
    {s gated : Connection.RegistryState} {guard : ListenerTransitionGuard}
    (h : closeGates s (disruptiveNames (assessTransition current candidate s)) = .ok (gated, guard)) :
    refreshImpacts guard (assessTransition current candidate s) =
      assessTransition current candidate s := by
  obtain ⟨-, -, -, hread⟩ := closeGates_eq_ok h
  refine (map_congr_left ?_).trans (map_id _)
  intro impact himpact
  by_cases hdisruptive : impact.disruptive = true
  · have hname : impact.name ∈ disruptiveNames (assessTransition current candidate s) :=
      mem_map.mpr ⟨impact, mem_filter.mpr ⟨himpact, hdisruptive⟩, rfl⟩
    -- a changed listener's impact carries the count the guard reads
    have hcount : impact.activeConnections = activeForListener s impact.name := by
      simp only [assessTransition, mem_insertionSort, mem_append, mem_filterMap,
        Option.map_eq_some_iff, mem_map] at himpact
      rcases himpact with ⟨listener, -, _, -, rfl⟩ | ⟨listener, -, rfl⟩
      · rfl
      · simp [ListenerImpact.disruptive] at hdisruptive
    rw [if_pos hdisruptive, hread impact.name hname, ← hcount]
    rfl
  · rw [if_neg hdisruptive]
    rfl

theorem closeGates_of_ungated {s : Connection.RegistryState} (h : s.gatedListeners = [])
    (names : List String) : ∃ gated guard, closeGates s names = .ok (gated, guard) := by
  have hfree : ∀ name ∈ names, name ∉ s.gatedListeners := by
    intro name _
    rw [h]
    exact not_mem_nil
  have hbegin := Connection.RegistryState.beginListenerTransition_eq_ok.mpr ⟨hfree, rfl⟩
  exact ⟨_, ⟨names, names.map fun name => (name, activeForListener s name)⟩,
    bind_eq_ok.mpr ⟨_, hbegin, rfl⟩⟩

variable {r : ListenerRuntime}

theorem whenAt_eq {token : Nat} {t : Transition} (h : r.transitions.lookup token = some t)
    (f : Transition → ListenerRuntime × ListenerTransition.Reply) :
    r.whenAt token t.phase f = f t := by
  simp [whenAt, h]

theorem lookup_setPhase {token : Nat} {t : Transition} (h : r.transitions.lookup token = some t)
    (phase : Phase) :
    (r.setPhase token phase).transitions.lookup token = some { t with phase := phase } := by
  simp [setPhase, Table.lookup_modify, h]

theorem transition_alone {current candidate : ListenerConfigSet}
    (hungated : r.transports.registry.gatedListeners = []) (hfree : r.lockedBy = none)
    (hactive : r.initialized = true) (hdrained : requireZeroActive
      (assessTransition current candidate r.transports.registry) = .ok ()) :
    ∃ r₁ r₂ r₃ r₄, r.step (.begin current candidate) = (r₁, .moved .gated) ∧
      r₁.step (.validate r.nextToken) = (r₂, .moved .ready) ∧
      r₂.step (.lock r.nextToken) = (r₃, .moved .installing) ∧
      r₃.step (.install r.nextToken true) = (r₄, .committed) := by
  obtain ⟨gated, guard, hclose⟩ := closeGates_of_ungated hungated
    (disruptiveNames (assessTransition current candidate r.transports.registry))
  let impacts := assessTransition current candidate r.transports.registry
  let r₁ : ListenerRuntime := { r with
    transports := { r.transports with registry := gated }
    transitions := r.transitions.insert r.nextToken ⟨current, candidate, impacts, guard, .gated⟩
    nextToken := r.nextToken + 1 }
  let r₂ := r₁.setPhase r.nextToken .ready
  let r₃ := { r₂.setPhase r.nextToken .installing with lockedBy := some r.nextToken }
  have hbegin : r.step (.begin current candidate) = (r₁, .moved .gated) := by
    simp only [step, begin, hclose, refreshImpacts_assess hclose]
    rfl
  have hgated : r₁.transitions.lookup r.nextToken =
      some ⟨current, candidate, impacts, guard, .gated⟩ := AList.lookup_insert _
  have hvalidate : r₁.step (.validate r.nextToken) = (r₂, .moved .ready) := by
    refine (whenAt_eq hgated _).trans ?_
    simp only [impacts, hdrained]
    rfl
  have hready := lookup_setPhase hgated .ready
  have hlock : r₂.step (.lock r.nextToken) = (r₃, .moved .installing) := by
    refine (whenAt_eq hready _).trans ?_
    rw [if_pos (show r₂.lockedBy = none from hfree), if_pos (show r₂.initialized = true from hactive)]
  have hinstalling : r₃.transitions.lookup r.nextToken =
      some ⟨current, candidate, impacts, guard, .installing⟩ := lookup_setPhase hready .installing
  exact ⟨r₁, r₂, r₃, r₃.setPhase r.nextToken .committed, hbegin, hvalidate, hlock,
    whenAt_eq hinstalling _⟩

/-! ### The immediate reload -/

def Action.attempt : Action env → Option Nat
  | .acquire id | .validate id _ | .closeGates id | .build id _ | .commit id | .enter id
  | .move id _ | .leave id | .cancel id => some id
  | .connection _ | .check _ | .trigger _ => none

theorem swaps_cons {b b' : Broker env} {action : Action env} {reply : Reply env}
    (h : b.step action = (b', reply)) (actions : List (Action env)) :
    swaps (events Broker.step b (action :: actions)) =
      reply.swap?.toList ++ swaps (events Broker.step b' actions) := by
  rw [events_cons, h]
  cases hswap : reply.swap? <;> simp [swaps, hswap]

namespace Broker

structure Quiet (b : Broker env) : Prop where
  no_attempts : b.attempts = ∅
  unlocked : b.lock = none
  ungated : b.registry.gatedListeners = []
  runtime_free : b.listeners.lockedBy = none
  runtime_active : b.live = true → b.listeners.initialized = true

variable {b : Broker env} {id : Nat} {clients : Except FederationError Unit}

theorem Quiet.serialized (h : b.Quiet) : Serialized b := by
  intro id stage hlookup
  rw [h.no_attempts] at hlookup
  cases hlookup

theorem Quiet.decided (h : b.Quiet) : Decided [] b := by
  refine ⟨?_, by simp [decisions], by simp [decisions]⟩
  intro id stage hlookup
  rw [h.no_attempts] at hlookup
  cases hlookup

def completion (b : Broker env) (id : Nat) (clients : Except FederationError Unit) (prepared : Bool) :
    List (Action env) :=
  if b.live then
    [.build id clients, .enter id, .move id .validate, .move id .lock, .move id (.install prepared),
      .move id .retire, .move id .drop]
  else [.closeGates id, .build id clients, .commit id, .leave id]

def immediate (b : Broker env) (reading : Reading env) (clients : Except FederationError Unit)
    (prepared : Bool) : List (Action env) :=
  [.trigger .reloadGenerationLive, .acquire b.nextAttempt, .validate b.nextAttempt reading] ++
    b.completion b.nextAttempt clients prepared

def Reloads (b : Broker env) (reading : Reading env) (clients : Except FederationError Unit)
    (prepared : Bool) : Prop :=
  swaps (Trace.events step b (b.immediate reading clients prepared)) ≠ []

theorem step_of_gone (h : b.attempts.lookup id = none) {action : Action env}
    (haction : action.attempt = some id) : b.step action = (b, .ignored) := by
  cases action <;> cases haction <;> simp [step, h]

theorem swaps_of_gone (h : b.attempts.lookup id = none) {actions : List (Action env)}
    (hactions : ∀ action ∈ actions, action.attempt = some id) :
    swaps (events step b actions) = [] := by
  induction actions with
  | nil => rfl
  | cons action actions ih =>
    rw [swaps_cons (step_of_gone h (hactions action mem_cons_self))]
    exact ih fun other hother => hactions other (mem_cons_of_mem _ hother)

def begun (b : Broker env) : Broker env :=
  ({ b.setStage b.nextAttempt .waiting with nextAttempt := b.nextAttempt + 1 }.setStage
    b.nextAttempt .locked).setLock (some b.nextAttempt)

theorem lookup_begun (b : Broker env) : b.begun.attempts.lookup b.nextAttempt = some .locked :=
  AList.lookup_insert _

theorem Quiet.swaps_immediate (h : b.Quiet) (reading : Reading env)
    (clients : Except FederationError Unit) (prepared : Bool) :
    swaps (events step b (b.immediate reading clients prepared)) =
      swaps (events step b.begun
        (.validate b.nextAttempt reading :: b.completion b.nextAttempt clients prepared)) := by
  have htrigger : b.step (.trigger .reloadGenerationLive) =
      ({ b.setStage b.nextAttempt .waiting with nextAttempt := b.nextAttempt + 1 }, .advanced) := rfl
  have hacquire : { b.setStage b.nextAttempt .waiting with
      nextAttempt := b.nextAttempt + 1 }.step (.acquire b.nextAttempt) = (b.begun, .advanced) := by
    have hlookup : (b.setStage b.nextAttempt .waiting).attempts.lookup b.nextAttempt =
        some .waiting := AList.lookup_insert _
    have hfree : { b.setStage b.nextAttempt .waiting with
        nextAttempt := b.nextAttempt + 1 }.lock = none := h.unlocked
    simp only [step, hlookup, hfree]
    rfl
  exact (swaps_cons htrigger _).trans (swaps_cons hacquire _)

theorem swaps_completion_sync {c : ValidatedCandidate env} (prepared : Bool)
    (hlive : b.live = false) (hlookup : b.attempts.lookup id = some (.validated c))
    (hungated : b.registry.gatedListeners = []) (hdrained : requireZeroActive
      (assessTransition b.generation.listeners c.corpus.listeners b.registry) = .ok ())
    (hbuild : buildGeneration c clients = .ok (generationOf c)) :
    swaps (events step b (b.completion id clients prepared)) ≠ [] := by
  obtain ⟨gated, guard, hclose⟩ := closeGates_of_ungated hungated
    (disruptiveNames (assessTransition b.generation.listeners c.corpus.listeners b.registry))
  let b₁ := (b.setRegistry gated).setStage id (.gated c guard.names)
  let b₂ := b₁.setStage id (.ready c guard.names)
  have hgates : b.step (.closeGates id) = (b₁, .advanced) := by
    simp [step, hlookup, hlive, beginTransition, hclose, refreshImpacts_assess hclose, hdrained, b₁]
  have hlookup₁ : b₁.attempts.lookup id = some (.gated c guard.names) := AList.lookup_insert _
  have hstep : b₁.step (.build id clients) = (b₂, .advanced) := by
    simp only [step, hlookup₁, build, hbuild]
    rfl
  have hlookup₂ : b₂.attempts.lookup id = some (.ready c guard.names) := AList.lookup_insert _
  have hcommit : b₂.step (.commit id) =
      ((b₂.install c).setStage id (.swapped guard.names), .swapped (b₂.swap id c)) := by
    simp [step, hlookup₂]
  have hcompletion : b.completion id clients prepared =
      [.closeGates id, .build id clients, .commit id, .leave id] := by
    simp [completion, hlive]
  rw [hcompletion, swaps_cons hgates, swaps_cons hstep, swaps_cons hcommit]
  exact cons_ne_nil _ _

theorem swaps_completion_live {c : ValidatedCandidate env} (hlive : b.live = true)
    (hlookup : b.attempts.lookup id = some (.validated c))
    (hgeneration : c.outcome.previousGeneration = b.generation.id)
    (hungated : b.registry.gatedListeners = []) (hfree : b.listeners.lockedBy = none)
    (hactive : b.listeners.initialized = true) (hdrained : requireZeroActive
      (assessTransition b.generation.listeners c.corpus.listeners b.registry) = .ok ())
    (hbuild : buildGeneration c clients = .ok (generationOf c)) :
    swaps (events step b (b.completion id clients true)) ≠ [] := by
  obtain ⟨r₁, r₂, r₃, r₄, hbegin, hvalidate, hlock, hinstall⟩ :=
    transition_alone hungated hfree hactive hdrained
  let token := b.listeners.nextToken
  let b₁ := b.setStage id (.built c)
  let b₂ := { b₁ with listeners := r₁ }.setStage id (.moving c token)
  have hlookup₁ : b₁.attempts.lookup id = some (.built c) := AList.lookup_insert _
  have hlookup₂ : b₂.attempts.lookup id = some (.moving c token) := AList.lookup_insert _
  have hstep : b.step (.build id clients) = (b₁, .advanced) := by
    simp [step, hlookup, build, hlive, hgeneration, hbuild, b₁]
  have henter : b₁.step (.enter id) = (b₂, .advanced) := by
    have hbegun : b₁.listeners.step
        (.begin b₁.generation.listeners c.corpus.listeners) = (r₁, .moved .gated) := hbegin
    simp only [step, hlookup₁, enter, hbegun]
    rfl
  -- until its commit the transition changes nothing but the runtime
  have hmove : ∀ (r r' : ListenerRuntime) (move : Move) (phase : Phase),
      r.step (move.action token) = (r', .moved phase) →
      { b₂ with listeners := r }.step (.move id move) = ({ b₂ with listeners := r' }, .advanced) := by
    intro r r' move phase hmoved
    have hlookup' : { b₂ with listeners := r }.attempts.lookup id = some (.moving c token) := hlookup₂
    simp [step, hlookup', moveOn, hmoved]
  have hcommit : ∃ b', { b₂ with listeners := r₃ }.step (.move id (.install true)) =
      (b', .swapped ({ b₂ with listeners := r₃ }.swap id c)) := by
    have hlookup' : { b₂ with listeners := r₃ }.attempts.lookup id = some (.moving c token) := hlookup₂
    have hcommitted : r₃.step (Move.action token (.install true)) = (r₄, .committed) := hinstall
    simp only [step, hlookup', moveOn, hcommitted]
    exact ⟨_, rfl⟩
  obtain ⟨b', hcommit⟩ := hcommit
  have hcompletion : b.completion id clients true = [.build id clients, .enter id,
      .move id .validate, .move id .lock, .move id (.install true), .move id .retire,
      .move id .drop] := by
    simp [completion, hlive]
  have hready : b₂.step (.move id .validate) = ({ b₂ with listeners := r₂ }, .advanced) :=
    hmove r₁ r₂ .validate .ready hvalidate
  rw [hcompletion, swaps_cons hstep, swaps_cons henter, swaps_cons hready,
    swaps_cons (hmove r₂ r₃ .lock .installing hlock), swaps_cons hcommit]
  exact cons_ne_nil _ _

theorem Quiet.check_iff_reloads (h : b.Quiet) (reading : Reading env)
    (hbuild : ∀ corpus, reading.corpus = .ok corpus → checkFederation corpus clients = .ok ()) :
    (∃ outcome, b.checkReload reading = .ok outcome) ↔ b.Reloads reading clients true := by
  have hsame : b.begun.validate reading = b.validate reading := rfl
  rw [Reloads, h.swaps_immediate]
  cases hvalid : b.validate reading with
  | error e =>
    have hrefused : b.begun.step (.validate b.nextAttempt reading) =
        (b.begun.finish b.nextAttempt, .refused b.nextAttempt e) := by
      simp only [step, lookup_begun, hsame, hvalid]
      rfl
    have hgone : (b.begun.finish b.nextAttempt).attempts.lookup b.nextAttempt = none :=
      AList.lookup_erase _ _
    have hactions : ∀ action ∈ b.completion b.nextAttempt clients true,
        action.attempt = some b.nextAttempt := by
      unfold completion
      split <;> simp [Action.attempt]
    rw [swaps_cons hrefused, swaps_of_gone hgone hactions]
    simp [checkReload, hvalid, Reply.swap?]
  | ok c =>
    obtain ⟨corpus, hcorpus, rfl⟩ := validateCandidate_ok.mp hvalid
    let c := candidateOf b.generation b.registry corpus
    let b' := b.begun.setStage b.nextAttempt (.validated c)
    have hadvanced : b.begun.step (.validate b.nextAttempt reading) = (b', .advanced) := by
      simp only [step, lookup_begun, hsame, hvalid]
      rfl
    have hlookup : b'.attempts.lookup b.nextAttempt = some (.validated c) := AList.lookup_insert _
    have hgeneration : buildGeneration c clients = .ok (generationOf c) := by
      have hfederation : checkFederation c.corpus clients = .ok () := hbuild corpus hcorpus.read
      simp only [buildGeneration, hfederation]
      rfl
    have hcompletion : b.completion b.nextAttempt clients true =
        b'.completion b.nextAttempt clients true := rfl
    have hswaps : swaps (events step b' (b'.completion b.nextAttempt clients true)) ≠ [] := by
      cases hlive : b.live with
      | false =>
        exact swaps_completion_sync true hlive hlookup h.ungated hcorpus.drained hgeneration
      | true =>
        exact swaps_completion_live hlive hlookup rfl h.ungated h.runtime_free
          (h.runtime_active hlive) hcorpus.drained hgeneration
    rw [swaps_cons hadvanced, hcompletion]
    simp only [checkReload, hvalid]
    exact ⟨fun _ => hswaps, fun _ => ⟨_, rfl⟩⟩

theorem Decided.refused_swaps_none {events : List (Action env × Reply env)} (h : Decided events b)
    {action : Action env} {error : ReloadError} (hrefused : (action, .refused id error) ∈ events) :
    ∀ s ∈ swaps events, s.attempt ≠ id := by
  intro s hs heq
  obtain ⟨⟨action', reply⟩, hmem, hswap⟩ := mem_filterMap.mp hs
  cases reply with
  | swapped =>
    cases hswap
    have hsame := eq_of_nodup_filterMap h.nodup hrefused hmem rfl (congrArg some heq)
    cases hsame
  | connection | checked | rejected | advanced | refused | ignored => cases hswap

/-! ### Gates -/

def GatesHeld (b : Broker env) : Prop :=
  ∀ name ∈ b.registry.gatedListeners, ∃ id stage, b.attempts.lookup id = some stage ∧
    name ∈ stage.gates b.listeners

section Gates

variable {b' : Broker env} {stage : Stage env}

theorem inside_of_gates {r : ListenerRuntime} {name : String} (h : name ∈ stage.gates r) :
    stage.inside = true := by
  cases stage <;> first | rfl | cases h

theorem GatesHeld.subset (h : b.GatesHeld) (hs : Serialized b)
    (hlookup : b.attempts.lookup id = some stage) (hinside : stage.inside = true) :
    b.registry.gatedListeners ⊆ stage.gates b.listeners := by
  intro name hname
  obtain ⟨other, stage', hother, hgates⟩ := h name hname
  by_cases heq : other = id
  · rw [heq, hlookup] at hother
    cases hother
    exact hgates
  · exact absurd (inside_of_gates hgates) (hs.outside hlookup hinside hother heq)

theorem GatesHeld.opened (h : b.GatesHeld) (hs : Serialized b) (hfree : b.lock = none) :
    b.registry.gatedListeners = [] := by
  refine eq_nil_iff_forall_not_mem.mpr fun name hname => ?_
  obtain ⟨id, stage, hlookup, hgates⟩ := h name hname
  have hheld := (hs id stage hlookup (inside_of_gates hgates)).1
  rw [hfree] at hheld
  cases hheld

theorem gatesHeld_of_none (h : b.registry.gatedListeners = []) : b.GatesHeld := by
  intro name hname
  rw [h] at hname
  cases hname

theorem gatesHeld_of_stage (hlookup : b.attempts.lookup id = some stage)
    (h : b.registry.gatedListeners ⊆ stage.gates b.listeners) : b.GatesHeld :=
  fun _ hname => ⟨id, stage, hlookup, h hname⟩

theorem reopen_gates {names : List String} (h : b.registry.gatedListeners ⊆ names) :
    (b.reopen names).registry.gatedListeners = [] := by
  refine filter_eq_nil_iff.mpr fun name hname => ?_
  simpa using h hname

theorem move_gates {r : ListenerRuntime} {token : Nat} (move : Move)
    (h : r.transports.registry.gatedListeners ⊆ guardNames r token) :
    let moved := r.step (move.action token)
    moved.1.transports.registry.gatedListeners ⊆ guardNames moved.1 token ∧
      (moved.2 = .dropped → moved.1.transports.registry.gatedListeners = []) := by
  -- every move but the last leaves the gates closed and the guard in place
  have hphase : ∀ phase, r.transports.registry.gatedListeners ⊆
      guardNames (r.setPhase token phase) token := by
    intro phase
    rw [guardNames, setPhase_guard]
    exact h
  cases move with
  | drop =>
    simp only [Move.action, ListenerRuntime.step, whenAt]
    split
    · exact ⟨h, fun hd => by cases hd⟩
    · next t ht =>
      split
      · have hnone : (r.transports.registry.endListenerTransition t.guard.names).gatedListeners = [] := by
          refine filter_eq_nil_iff.mpr fun name hname => ?_
          simpa [guardNames, ht] using h hname
        exact ⟨hnone ▸ nil_subset _, fun _ => hnone⟩
      · exact ⟨h, fun hd => by cases hd⟩
  | _ =>
    simp only [Move.action, ListenerRuntime.step, whenAt]
    repeat' split
    all_goals first | exact ⟨h, fun hd => by cases hd⟩ | exact ⟨hphase _, fun hd => by cases hd⟩

theorem serve_gates (t : Connection.Transports) (call : Connection.ConnectionCall) :
    (t.serve call).1.registry.gatedListeners = t.registry.gatedListeners := by
  rcases serve_registry t call with ⟨_, heq⟩ | ⟨_, _, _, _, -, heq⟩ | ⟨id, heq⟩ | ⟨_, -, heq⟩
  · rw [heq]
  · rw [heq]
    rfl
  · rw [heq, Connection.RegistryState.release]
    split <;> rfl
  · rw [heq]

theorem gatesHeld_beginTransition (hnone : b.registry.gatedListeners = [])
    (c : ValidatedCandidate env) : (b.beginTransition id c).1.GatesHeld := by
  simp only [beginTransition]
  split
  · exact gatesHeld_of_none hnone
  · next registry guard hclose =>
    split
    · exact gatesHeld_of_none hnone
    · obtain ⟨-, rfl, hnames, -⟩ := closeGates_eq_ok hclose
      refine gatesHeld_of_stage (AList.lookup_insert _) ?_
      show b.registry.gatedListeners ++ _ ⊆ guard.names
      rw [hnone, hnames]
      exact Subset.refl _

theorem gatesHeld_build (h : b.GatesHeld) (hs : Serialized b)
    (hlookup : b.attempts.lookup id = some stage) : (b.build id clients stage).1.GatesHeld := by
  cases stage with
  | gated c names =>
    have hnames : b.registry.gatedListeners ⊆ names := h.subset hs hlookup rfl
    simp only [build]
    split
    · exact gatesHeld_of_none (reopen_gates hnames)
    · exact gatesHeld_of_stage (AList.lookup_insert _) hnames
  | validated =>
    have hnone := subset_nil.mp (h.subset hs hlookup rfl)
    simp only [build]
    repeat' split
    all_goals exact gatesHeld_of_none hnone
  | _ => exact h

theorem gatesHeld_enter (hnone : b.registry.gatedListeners = []) (c : ValidatedCandidate env) :
    (b.enter id c).1.GatesHeld := by
  simp only [enter, ListenerRuntime.step, begin]
  cases hclose : ListenerTransition.closeGates b.listeners.transports.registry _ with
  | error => exact gatesHeld_of_none hnone
  | ok closed =>
    obtain ⟨-, hgated, hnames, -⟩ := closeGates_eq_ok hclose
    refine gatesHeld_of_stage (AList.lookup_insert _) ?_
    show closed.1.gatedListeners ⊆ Option.elim (((b.listeners.transitions.insert _ _).lookup
      b.listeners.nextToken).map Transition.guard) [] _
    rw [AList.lookup_insert, hgated]
    show b.registry.gatedListeners ++ _ ⊆ closed.2.names
    rw [hnone, hnames]
    exact Subset.refl _

section Moves

variable {c : ValidatedCandidate env} {token : Nat} (move : Move)

theorem gatesHeld_moveOn (hlookup : b.attempts.lookup id = some (.moving c token))
    (h : b.registry.gatedListeners ⊆ guardNames b.listeners token) :
    (b.moveOn id c token move).1.GatesHeld := by
  have hgates := (move_gates move h).1
  simp only [moveOn]
  split
  · exact gatesHeld_of_stage (AList.lookup_insert _) hgates
  · exact gatesHeld_of_stage (AList.lookup_insert _) hgates
  · exact gatesHeld_of_stage hlookup hgates

theorem gatesHeld_close (hlookup : b.attempts.lookup id = some (.closing token))
    (h : b.registry.gatedListeners ⊆ guardNames b.listeners token) :
    (b.close id token move).1.GatesHeld := by
  have hgates := move_gates move h
  simp only [close]
  split
  · next hdropped => exact gatesHeld_of_none (hgates.2 hdropped)
  · exact gatesHeld_of_stage hlookup hgates.1

end Moves

theorem gatesHeld_step (hs : Serialized b)
    (hbelow : ∀ id stage, b.attempts.lookup id = some stage → id < b.nextAttempt) (h : b.GatesHeld)
    (action : Action env) : (b.step action).1.GatesHeld := by
  cases action with
  | connection call =>
    intro name hname
    obtain ⟨id, stage, hlookup, hheld⟩ := h name (serve_gates _ call ▸ hname)
    exact ⟨id, stage, hlookup, by cases stage <;> exact hheld⟩
  | check => exact h
  | trigger =>
    simp only [step]
    split
    · exact h
    · intro name hname
      obtain ⟨id, stage, hlookup, hheld⟩ := h name hname
      have hne : id ≠ b.nextAttempt := Nat.ne_of_lt (hbelow id stage hlookup)
      refine ⟨id, stage, ?_, hheld⟩
      exact (Table.lookup_insert_eq ..).trans ((if_neg hne).trans hlookup)
  | acquire id =>
    simp only [step]
    split
    · split
      · next hfree => exact gatesHeld_of_none (h.opened hs hfree)
      · exact h
    · exact h
  | validate id =>
    simp only [step]
    split
    · next hlookup =>
      have hnone := subset_nil.mp (h.subset hs hlookup rfl)
      split
      · exact gatesHeld_of_none hnone
      · exact gatesHeld_of_none hnone
    · exact h
  | closeGates id =>
    simp only [step]
    split
    · next hlookup =>
      split
      · exact h
      · exact gatesHeld_beginTransition (subset_nil.mp (h.subset hs hlookup rfl)) _
    · exact h
  | build id clients =>
    simp only [step]
    split
    · next stage hlookup => exact gatesHeld_build h hs hlookup
    · exact h
  | commit id =>
    simp only [step]
    split
    · next names hlookup =>
      have hnames : b.registry.gatedListeners ⊆ names := h.subset hs hlookup rfl
      exact gatesHeld_of_stage (AList.lookup_insert _) hnames
    · exact h
  | enter id =>
    simp only [step]
    split
    · next hlookup => exact gatesHeld_enter (subset_nil.mp (h.subset hs hlookup rfl)) _
    · exact h
  | move id move =>
    simp only [step]
    split
    · next hlookup => exact gatesHeld_moveOn move hlookup (h.subset hs hlookup rfl)
    · next hlookup => exact gatesHeld_close move hlookup (h.subset hs hlookup rfl)
    · exact h
  | leave id =>
    simp only [step]
    split
    · next hlookup => exact gatesHeld_of_none (reopen_gates (h.subset hs hlookup rfl))
    · exact h
  | cancel id =>
    simp only [step]
    split
    · next hlookup =>
      intro name hname
      obtain ⟨other, stage, hother, hheld⟩ := h name hname
      have hne : other ≠ id := by
        rintro rfl
        rw [hlookup] at hother
        cases hother
        cases hheld
      exact ⟨other, stage, (Table.lookup_erase_eq ..).trans ((if_neg hne).trans hother), hheld⟩
    · exact h

theorem Quiet.gates_run (h : b.Quiet) (actions : List (Action env)) :
    (final step b actions).GatesHeld := by
  have hinit : Decided [] b ∧ Serialized b ∧ b.GatesHeld :=
    ⟨h.decided, h.serialized, gatesHeld_of_none h.ungated⟩
  refine (history (fun events b => Decided events b ∧ Serialized b ∧ b.GatesHeld) ?_ hinit actions).2.2
  rintro events b action ⟨hdecided, hserialized, hgates⟩
  exact ⟨decided_step hdecided action, serialized_effect hserialized (step_effect action),
    gatesHeld_step hserialized hdecided.below hgates action⟩

end Gates

theorem reloads_serialized {b : Broker env} (hquiet : b.Quiet) (actions : List (Action env)) :
    let events := events step b actions
    SwapsFrom b.generation (swaps events) (final step b actions).generation ∧
      (swaps events).map (fun s => s.next.id) =
        (range (swaps events).length).map (fun k => satAddU64 b.generation.id (k + 1)) ∧
      (∀ past action rest, actions = past ++ action :: rest →
        ((final step b past).step action).2.swap? = none →
        SameServing (final step b past) ((final step b past).step action).1) ∧
      (∀ past rest, actions = past ++ rest → (final step b past).lock = none →
        (final step b past).registry.gatedListeners = []) ∧
      (∀ (b' : Broker env) (reading : Reading env), (b'.step (.check reading)).1 = b') ∧
      (∀ action id error, (action, .refused id error) ∈ events →
        ∀ s ∈ swaps events, s.attempt ≠ id) ∧
      ∀ (b' : Broker env) (reading : Reading env) (clients : Except FederationError Unit), b'.Quiet →
        (∀ corpus, reading.corpus = .ok corpus → checkFederation corpus clients = .ok ()) →
        ((∃ outcome, b'.checkReload reading = .ok outcome) ↔ b'.Reloads reading clients true) := by
  obtain ⟨hswaps, -⟩ := swaps_run hquiet.serialized actions
  have hdecided := history Decided (fun _ _ action h => decided_step h action)
    hquiet.decided actions
  refine ⟨hswaps, hswaps.ids, ?_, ?_, fun _ _ => rfl, ?_, ?_⟩
  · intro past action rest _ hnone
    have hserialized := (swaps_run hquiet.serialized past).2
    rcases hserialized.step_serving action with ⟨-, hsame⟩ | ⟨id, _, -, hswap, -⟩
    · exact hsame
    · rw [hnone] at hswap
      cases hswap
  · intro past _ _ hfree
    exact (hquiet.gates_run past).opened (swaps_run hquiet.serialized past).2 hfree
  · intro action id error hrefused
    exact hdecided.refused_swaps_none hrefused
  · intro b' reading clients hquiet' hbuild
    exact hquiet'.check_iff_reloads reading hbuild

end Broker

/-! ### A listener that cannot be bound -/

def emptyCatalog : Catalog := ⟨.empty, .empty⟩

def emptyPolicy : ResolvedPolicy := ⟨.empty, []⟩

def emptyConfig : PolicyConfig := ⟨⟨.empty, .empty⟩, .empty⟩

def hostBroker (id : Nat) : Broker ciEnv where
  generation := ⟨⟨id, emptyCatalog, emptyPolicy, emptyConfig⟩, hostOnly, none⟩
  running := hostOnly.get?
  tombstones := []
  bundleEvents := []
  hasInputs := true
  live := true
  listeners := { start .compiled .empty with initialized := true }
  reloadLock := none
  liveReloadLock := none
  attempts := ∅
  nextAttempt := 0

def courierReading : Reading ciEnv :=
  ⟨.ok ⟨emptyCatalog, ⟨[], rfl⟩, emptyPolicy, emptyConfig, bothListeners, none⟩, .ok ()⟩

theorem hostBroker_quiet (id : Nat) : (hostBroker id).Quiet := ⟨rfl, rfl, rfl, rfl, fun _ => rfl⟩

theorem unbound_courier_passes_the_check :
    ((hostBroker 1).Quiet ∧ (hostBroker 1).checkReload courierReading =
        .ok ⟨1, 2, 0, 0, [⟨"ci", .add, 0, none, some "/run/basil/ci.sock"⟩]⟩ ∧
      ¬ (hostBroker 1).Reloads courierReading (.ok ()) false) ∧
    (swaps (events Broker.step (hostBroker u64Max)
      ((hostBroker u64Max).immediate courierReading (.ok ()) true))).map
        (fun s => (s.previous.id, s.next.id)) = [(u64Max, u64Max)] :=
  ⟨⟨hostBroker_quiet 1, rfl, fun h => h rfl⟩, rfl⟩

theorem courier_reload_serialized :
    (hostBroker 1).Quiet ∧ (hostBroker 1).Reloads courierReading (.ok ()) true ∧
      (swaps (events Broker.step (hostBroker 1)
        ((hostBroker 1).immediate courierReading (.ok ()) true))).map (fun s => s.next.id) = [2] := by
  have hrun := Broker.reloads_serialized (hostBroker_quiet 1)
    ((hostBroker 1).immediate courierReading (.ok ()) true)
  have hreloads := (hrun.2.2.2.2.2.2 (hostBroker 1) courierReading (.ok ()) (hostBroker_quiet 1)
      (fun corpus hread => by cases hread; rfl)).mp ⟨_, rfl⟩
  exact ⟨hostBroker_quiet 1, hreloads, rfl⟩

end Basil.Reload
