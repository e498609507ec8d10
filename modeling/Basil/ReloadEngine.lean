import Basil.Reload

/-!
# Interleaved reloads (`core/reload.rs`, `core/state.rs`)

Without a listener runtime both entry points run `reload_generation` under `reload_lock`; with
one, `reload_generation` refuses and `reload_generation_live` runs under `live_reload_lock` with
the runtime's transition around the swap. The runtime is installed before reloads are enabled, or
never.
-/

namespace Basil.Reload

open CiFederation ListenerTransition

variable {env : FederationEnv}

/-- Where a reload stands. `gated` and `ready` are stages of `reload_generation`, `built`
and `moving` of `reload_generation_live`. The last two have decided. -/
inductive Stage (env : FederationEnv) where
  | waiting
  | locked
  | validated (candidate : ValidatedCandidate env)
  | gated (candidate : ValidatedCandidate env) (names : List String)
  | ready (candidate : ValidatedCandidate env) (names : List String)
  | built (candidate : ValidatedCandidate env)
  | moving (candidate : ValidatedCandidate env) (token : Nat)
  | swapped (names : List String)
  | closing (token : Nat)

def guardNames (r : ListenerRuntime) (token : Nat) : List String :=
  ((r.transitions.lookup token).map Transition.guard).elim [] ListenerTransitionGuard.names

namespace Stage

def inside : Stage env → Bool
  | waiting => false
  | _ => true

def candidate : Stage env → Option (ValidatedCandidate env)
  | validated c | gated c _ | ready c _ | built c | moving c _ => some c
  | waiting | locked | swapped _ | closing _ => none

def decided : Stage env → Bool
  | swapped _ | closing _ => true
  | _ => false

/-- The gates that a reload at this stage has closed. -/
def gates (r : ListenerRuntime) : Stage env → List String
  | gated _ names | ready _ names | swapped names => names
  | moving _ token | closing token => guardNames r token
  | waiting | locked | validated _ | built _ => []

end Stage

/-- The broker's reloadable state. `running` are the accept loops of the listener runtime. -/
structure Broker (env : FederationEnv) where
  generation : ServingGeneration env
  running : String → Option ListenerConfig
  tombstones : List String
  bundleEvents : List String
  hasInputs : Bool
  live : Bool
  listeners : ListenerRuntime
  reloadLock : Option Nat
  liveReloadLock : Option Nat
  attempts : Table Nat (Stage env)
  nextAttempt : Nat

inductive Entry where
  | reloadGeneration
  | reloadGenerationLive
  deriving DecidableEq

inductive Move where
  | validate
  | lock
  | install (prepared : Bool)
  | retire
  | abandon
  | drop

def Move.action (token : Nat) : Move → ListenerTransition.Action
  | validate => .validate token
  | lock => .lock token
  | install prepared => .install token prepared
  | retire => .retire token
  | abandon => .abandon token
  | drop => .drop token

inductive Action (env : FederationEnv) where
  | connection (call : Connection.ConnectionCall)
  | check (reading : Reading env)
  | trigger (entry : Entry)
  | acquire (id : Nat)
  | validate (id : Nat) (reading : Reading env)
  | closeGates (id : Nat)
  | build (id : Nat) (clients : Except FederationError Unit)
  | commit (id : Nat)
  | enter (id : Nat)
  | move (id : Nat) (move : Move)
  | leave (id : Nat)
  | cancel (id : Nat)

structure Swap (env : FederationEnv) where
  attempt : Nat
  previous : ServingGeneration env
  next : ServingGeneration env
  outcome : ReloadOutcome

inductive Reply (env : FederationEnv) where
  | connection (reply : Connection.RegistryReply)
  | checked (result : Except ReloadError ReloadOutcome)
  | rejected (error : ReloadError)
  | advanced
  | refused (id : Nat) (error : ReloadError)
  | swapped (swap : Swap env)
  | ignored

def Reply.decides : Reply env → Option Nat
  | .refused id _ => some id
  | .swapped swap => some swap.attempt
  | _ => none

def Reply.swap? : Reply env → Option (Swap env)
  | .swapped swap => some swap
  | _ => none

namespace Broker

variable (b : Broker env)

def registry : Connection.RegistryState := b.listeners.transports.registry

def setRegistry (registry : Connection.RegistryState) : Broker env :=
  { b with
    listeners := { b.listeners with
      transports := { b.listeners.transports with registry := registry } } }

def validate (reading : Reading env) : Except ReloadError (ValidatedCandidate env) :=
  validateCandidate b.hasInputs b.generation b.tombstones b.registry reading

def checkReload (reading : Reading env) : Except ReloadError ReloadOutcome :=
  ValidatedCandidate.outcome <$> b.validate reading

/-! ### The lock of the path in use -/

def lock : Option Nat := if b.live then b.liveReloadLock else b.reloadLock

def setLock (holder : Option Nat) : Broker env :=
  { b with
    reloadLock := if b.live then b.reloadLock else holder
    liveReloadLock := if b.live then holder else b.liveReloadLock }

def setStage (id : Nat) (stage : Stage env) : Broker env :=
  { b with attempts := b.attempts.insert id stage }

def finish (id : Nat) : Broker env :=
  { b with attempts := b.attempts.erase id }.setLock none

def refuse (id : Nat) (error : ReloadError) : Broker env × Reply env :=
  (b.finish id, .refused id error)

/-- The closure run by the commit: `swap_generation`, `record_nix_cache_enrollments` and
the bundle events. -/
def install (candidate : ValidatedCandidate env) : Broker env :=
  { b with
    generation := generationOf candidate
    tombstones := b.tombstones ++ enrolledNames candidate.corpus.catalog
    bundleEvents := b.bundleEvents ++ candidate.bundleChanged }

def swap (id : Nat) (candidate : ValidatedCandidate env) : Swap env :=
  ⟨id, b.generation, generationOf candidate, candidate.outcome⟩

/-- `install_transition`: the loops of changed, removed and added listeners are replaced. -/
def installLoops (candidate : ListenerConfigSet) (name : String) : Option ListenerConfig :=
  if candidate.get? name = b.generation.listeners.get? name then b.running name
  else candidate.get? name

def reopen (names : List String) : Broker env :=
  b.setRegistry (b.registry.endListenerTransition names)

/-! ### Steps -/

/-- `begin_transition` of `reload_generation`; a refused one drops its gates at once. -/
def beginTransition (id : Nat) (candidate : ValidatedCandidate env) : Broker env × Reply env :=
  let impacts := assessTransition b.generation.listeners candidate.corpus.listeners b.registry
  match ListenerTransition.closeGates b.registry (disruptiveNames impacts) with
  | .error e => b.refuse id (.listenerTransition (.registry e))
  | .ok (registry, guard) =>
      match requireZeroActive (refreshImpacts guard impacts) with
      | .error blocking => b.refuse id (.listenerTransitionBlocked blocking)
      | .ok () => ((b.setRegistry registry).setStage id (.gated candidate guard.names), .advanced)

/-- Building the generation, in `reload_generation` behind the closed gates and in
`reload_generation_live` after the generation is compared once more. -/
def build (id : Nat) (clients : Except FederationError Unit) :
    Stage env → Broker env × Reply env
  | .gated candidate names =>
      match buildGeneration candidate clients with
      | .error e => (b.reopen names).refuse id (.federation e)
      | .ok _ => (b.setStage id (.ready candidate names), .advanced)
  | .validated candidate =>
      if b.live then
        if b.generation.id ≠ candidate.outcome.previousGeneration then b.refuse id .generationChanged
        else
          match buildGeneration candidate clients with
          | .error e => b.refuse id (.federation e)
          | .ok _ => (b.setStage id (.built candidate), .advanced)
      else (b, .ignored)
  | _ => (b, .ignored)

def enter (id : Nat) (candidate : ValidatedCandidate env) : Broker env × Reply env :=
  let begun := b.listeners.step (.begin b.generation.listeners candidate.corpus.listeners)
  match begun.2 with
  | .failed e => { b with listeners := begun.1 }.refuse id (.listenerTransition e)
  | _ =>
      ({ b with listeners := begun.1 }.setStage id (.moving candidate b.listeners.nextToken),
        .advanced)

/-- The commit of the runtime runs the closure; a failure leaves its guard to drop. -/
def moveOn (id : Nat) (candidate : ValidatedCandidate env) (token : Nat) (move : Move) :
    Broker env × Reply env :=
  let moved := b.listeners.step (move.action token)
  let after := { b with listeners := moved.1 }
  match moved.2 with
  | .committed =>
      ({ after.install candidate with running := b.installLoops candidate.corpus.listeners }.setStage
        id (.closing token), .swapped (b.swap id candidate))
  | .failed e => (after.setStage id (.closing token), .refused id (.listenerTransition e))
  | _ => (after, .advanced)

def close (id : Nat) (token : Nat) (move : Move) : Broker env × Reply env :=
  let moved := b.listeners.step (move.action token)
  let after := { b with listeners := moved.1 }
  match moved.2 with
  | .dropped => (after.finish id, .advanced)
  | _ => (after, .advanced)

def step : Action env → Broker env × Reply env
  | .connection call =>
      let served := b.listeners.transports.serve call
      ({ b with listeners := { b.listeners with transports := served.1 } }, .connection served.2)
  | .check reading => (b, .checked (b.checkReload reading))
  | .trigger entry =>
      if entry = .reloadGeneration ∧ b.live = true then (b, .rejected .liveRuntimeRequired)
      else
        ({ b.setStage b.nextAttempt .waiting with nextAttempt := b.nextAttempt + 1 }, .advanced)
  | .acquire id =>
      match b.attempts.lookup id with
      | some .waiting =>
          if b.lock = none then ((b.setStage id .locked).setLock (some id), .advanced)
          else (b, .ignored)
      | _ => (b, .ignored)
  | .validate id reading =>
      match b.attempts.lookup id with
      | some .locked =>
          match b.validate reading with
          | .error e => b.refuse id e
          | .ok candidate => (b.setStage id (.validated candidate), .advanced)
      | _ => (b, .ignored)
  | .closeGates id =>
      match b.attempts.lookup id with
      | some (.validated candidate) =>
          if b.live then (b, .ignored) else b.beginTransition id candidate
      | _ => (b, .ignored)
  | .build id clients =>
      match b.attempts.lookup id with
      | some stage => b.build id clients stage
      | none => (b, .ignored)
  | .commit id =>
      match b.attempts.lookup id with
      | some (.ready candidate names) =>
          ((b.install candidate).setStage id (.swapped names), .swapped (b.swap id candidate))
      | _ => (b, .ignored)
  | .enter id =>
      match b.attempts.lookup id with
      | some (.built candidate) => b.enter id candidate
      | _ => (b, .ignored)
  | .move id move =>
      match b.attempts.lookup id with
      | some (.moving candidate token) => b.moveOn id candidate token move
      | some (.closing token) => b.close id token move
      | _ => (b, .ignored)
  | .leave id =>
      match b.attempts.lookup id with
      | some (.swapped names) => ((b.reopen names).finish id, .advanced)
      | _ => (b, .ignored)
  -- a caller that waits for the lock may drop its future
  | .cancel id =>
      match b.attempts.lookup id with
      | some .waiting => ({ b with attempts := b.attempts.erase id }, .ignored)
      | _ => (b, .ignored)

@[simp] theorem lock_setLock (holder : Option Nat) : (b.setLock holder).lock = holder := by
  unfold lock setLock
  cases b.live <;> rfl

/-! ### What a step can do -/

structure SameState (b b' : Broker env) : Prop where
  generation_eq : b'.generation = b.generation
  tombstones_eq : b'.tombstones = b.tombstones
  bundleEvents_eq : b'.bundleEvents = b.bundleEvents

structure SameServing (b b' : Broker env) : Prop extends SameState b b' where
  running_eq : b'.running = b.running

/-- The candidate was validated against the serving state as it is. -/
def Fresh (b : Broker env) (candidate : ValidatedCandidate env) : Prop :=
  ∃ registry corpus, candidate = candidateOf b.generation registry corpus ∧
    routingShape b.generation.catalog = routingShape corpus.catalog ∧
    IdentitiesKept b.generation.catalog corpus.catalog b.tombstones

inductive Effect (b : Broker env) : Broker env → Reply env → Prop where
  | idle {b' : Broker env} {reply : Reply env} (serving : SameServing b b')
      (attempts : b'.attempts = b.attempts) (lock : b'.lock = b.lock)
      (next : b'.nextAttempt = b.nextAttempt) (quiet : reply.decides = none) : Effect b b' reply
  | start {b' : Broker env} {reply : Reply env} (serving : SameServing b b')
      (attempts : b'.attempts = b.attempts.insert b.nextAttempt .waiting) (lock : b'.lock = b.lock)
      (next : b'.nextAttempt = b.nextAttempt + 1) (quiet : reply.decides = none) : Effect b b' reply
  | acquire {b' : Broker env} {reply : Reply env} (id : Nat)
      (waiting : b.attempts.lookup id = some .waiting) (free : b.lock = none)
      (serving : SameServing b b') (attempts : b'.attempts = b.attempts.insert id .locked)
      (lock : b'.lock = some id) (next : b'.nextAttempt = b.nextAttempt)
      (quiet : reply.decides = none) : Effect b b' reply
  | advance {b' : Broker env} {reply : Reply env} (id : Nat) (stage stage' : Stage env)
      (lookup : b.attempts.lookup id = some stage) (inside : stage.inside = true)
      (undecided : stage.decided = false) (serving : SameServing b b')
      (attempts : b'.attempts = b.attempts.insert id stage') (lock : b'.lock = b.lock)
      (next : b'.nextAttempt = b.nextAttempt)
      (candidate : ∀ c, stage'.candidate = some c → stage.candidate = some c ∨ Fresh b c)
      (swap : reply.swap? = none)
      (decides : reply.decides = if stage'.decided then some id else none) : Effect b b' reply
  | finish {b' : Broker env} {reply : Reply env} (id : Nat) (stage : Stage env)
      (lookup : b.attempts.lookup id = some stage) (inside : stage.inside = true)
      (serving : SameServing b b') (attempts : b'.attempts = b.attempts.erase id)
      (lock : b'.lock = none) (next : b'.nextAttempt = b.nextAttempt) (swap : reply.swap? = none)
      (decides : reply.decides = if stage.decided then none else some id) : Effect b b' reply
  | swap {b' : Broker env} (id : Nat) (stage stage' : Stage env) (c : ValidatedCandidate env)
      (lookup : b.attempts.lookup id = some stage) (inside : stage.inside = true)
      (candidate : stage.candidate = some c)
      (serving : SameState (b.install c) b')
      (attempts : b'.attempts = b.attempts.insert id stage') (decided : stage'.decided = true)
      (lock : b'.lock = b.lock) (next : b'.nextAttempt = b.nextAttempt) :
      Effect b b' (.swapped (b.swap id c))
  | cancel {b' : Broker env} {reply : Reply env} (id : Nat)
      (waiting : b.attempts.lookup id = some .waiting) (serving : SameServing b b')
      (attempts : b'.attempts = b.attempts.erase id) (lock : b'.lock = b.lock)
      (next : b'.nextAttempt = b.nextAttempt) (quiet : reply.decides = none) : Effect b b' reply

variable {b}

variable {b' : Broker env} {id : Nat} {stage : Stage env} {c : ValidatedCandidate env}

theorem refuse_effect (e : ReloadError) (hlookup : b.attempts.lookup id = some stage)
    (hinside : stage.inside = true) (hundecided : stage.decided = false)
    (hserving : SameServing b b') (hattempts : b'.attempts = b.attempts)
    (hnext : b'.nextAttempt = b.nextAttempt) : Effect b (b'.refuse id e).1 (b'.refuse id e).2 := by
  refine .finish id stage hlookup hinside { hserving with } ?_
    (lock_setLock _ none) hnext rfl ?_
  · show b'.attempts.erase id = _
    rw [hattempts]
  · rw [hundecided]
    rfl

theorem beginTransition_effect (hlookup : b.attempts.lookup id = some (.validated c)) :
    Effect b (b.beginTransition id c).1 (b.beginTransition id c).2 := by
  have hsame : SameServing b b := ⟨⟨rfl, rfl, rfl⟩, rfl⟩
  simp only [beginTransition]
  split
  · exact refuse_effect _ hlookup rfl rfl hsame rfl rfl
  · split
    · exact refuse_effect _ hlookup rfl rfl hsame rfl rfl
    · next guard _ _ _ =>
      exact .advance id _ (.gated c guard.names) hlookup rfl rfl ⟨⟨rfl, rfl, rfl⟩, rfl⟩ rfl rfl rfl
        (fun _ h => .inl h) rfl rfl

theorem build_effect (clients : Except FederationError Unit)
    (hlookup : b.attempts.lookup id = some stage) :
    Effect b (b.build id clients stage).1 (b.build id clients stage).2 := by
  have hsame : SameServing b b := ⟨⟨rfl, rfl, rfl⟩, rfl⟩
  have hidle : Effect b b .ignored := .idle hsame rfl rfl rfl rfl
  cases stage with
  | gated c names =>
    simp only [build]
    split
    · exact refuse_effect _ hlookup rfl rfl ⟨⟨rfl, rfl, rfl⟩, rfl⟩ rfl rfl
    · exact .advance id _ (.ready c names) hlookup rfl rfl ⟨⟨rfl, rfl, rfl⟩, rfl⟩ rfl rfl rfl
        (fun _ h => .inl h) rfl rfl
  | validated c =>
    simp only [build]
    split
    · split
      · exact refuse_effect _ hlookup rfl rfl hsame rfl rfl
      · split
        · exact refuse_effect _ hlookup rfl rfl hsame rfl rfl
        · exact .advance id _ (.built c) hlookup rfl rfl ⟨⟨rfl, rfl, rfl⟩, rfl⟩ rfl rfl rfl
            (fun _ h => .inl h) rfl rfl
    · exact hidle
  | waiting | locked | ready | built | moving | swapped | closing => exact hidle

theorem enter_effect (hlookup : b.attempts.lookup id = some (.built c)) :
    Effect b (b.enter id c).1 (b.enter id c).2 := by
  simp only [enter]
  split
  · exact refuse_effect _ hlookup rfl rfl ⟨⟨rfl, rfl, rfl⟩, rfl⟩ rfl rfl
  · exact .advance id _ (.moving c b.listeners.nextToken) hlookup rfl rfl ⟨⟨rfl, rfl, rfl⟩, rfl⟩ rfl rfl rfl
      (fun _ h => .inl h) rfl rfl

theorem moveOn_effect {token : Nat} (move : Move)
    (hlookup : b.attempts.lookup id = some (.moving c token)) :
    Effect b (b.moveOn id c token move).1 (b.moveOn id c token move).2 := by
  simp only [moveOn]
  split
  · exact .swap id _ (.closing token) c hlookup rfl rfl ⟨rfl, rfl, rfl⟩ rfl rfl rfl rfl
  · exact .advance id _ (.closing token) hlookup rfl rfl ⟨⟨rfl, rfl, rfl⟩, rfl⟩ rfl rfl rfl
      nofun rfl rfl
  · exact .idle ⟨⟨rfl, rfl, rfl⟩, rfl⟩ rfl rfl rfl rfl

theorem close_effect {token : Nat} (move : Move)
    (hlookup : b.attempts.lookup id = some (.closing token)) :
    Effect b (b.close id token move).1 (b.close id token move).2 := by
  simp only [close]
  split
  · exact .finish id _ hlookup rfl ⟨⟨rfl, rfl, rfl⟩, rfl⟩ rfl (lock_setLock _ none) rfl rfl rfl
  · exact .idle ⟨⟨rfl, rfl, rfl⟩, rfl⟩ rfl rfl rfl rfl

theorem step_effect (action : Action env) : Effect b (b.step action).1 (b.step action).2 := by
  have hsame : SameServing b b := ⟨⟨rfl, rfl, rfl⟩, rfl⟩
  have hidle : Effect b b .ignored := .idle hsame rfl rfl rfl rfl
  cases action with
  | connection => exact .idle ⟨⟨rfl, rfl, rfl⟩, rfl⟩ rfl rfl rfl rfl
  | check => exact .idle hsame rfl rfl rfl rfl
  | trigger =>
    simp only [step]
    split
    · exact .idle hsame rfl rfl rfl rfl
    · exact .start ⟨⟨rfl, rfl, rfl⟩, rfl⟩ rfl rfl rfl rfl
  | acquire id =>
    simp only [step]
    split
    · next hlookup =>
      split
      · next hfree =>
        exact .acquire id hlookup hfree ⟨⟨rfl, rfl, rfl⟩, rfl⟩ rfl (lock_setLock _ _) rfl rfl
      · exact hidle
    · exact hidle
  | validate id =>
    simp only [step]
    split
    · next hlookup =>
      split
      · exact refuse_effect _ hlookup rfl rfl hsame rfl rfl
      · next candidate hvalid =>
        obtain ⟨corpus, hcorpus, rfl⟩ := validateCandidate_ok.mp hvalid
        refine .advance id _ (.validated _) hlookup rfl rfl ⟨⟨rfl, rfl, rfl⟩, rfl⟩ rfl rfl rfl ?_ rfl
          rfl
        intro c hc
        cases hc
        exact .inr ⟨_, corpus, rfl, hcorpus.shape, hcorpus.identities⟩
    · exact hidle
  | closeGates =>
    simp only [step]
    split
    · next hlookup =>
      split
      · exact hidle
      · exact beginTransition_effect hlookup
    · exact hidle
  | build id clients =>
    simp only [step]
    split
    · next hlookup => exact build_effect clients hlookup
    · exact hidle
  | commit id =>
    simp only [step]
    split
    · next candidate names hlookup =>
      exact .swap id _ (.swapped names) candidate hlookup rfl rfl ⟨rfl, rfl, rfl⟩ rfl rfl rfl rfl
    · exact hidle
  | enter =>
    simp only [step]
    split
    · next hlookup => exact enter_effect hlookup
    · exact hidle
  | move id move =>
    simp only [step]
    split
    · next hlookup => exact moveOn_effect move hlookup
    · next hlookup => exact close_effect move hlookup
    · exact hidle
  | leave id =>
    simp only [step]
    split
    · next hlookup =>
      exact .finish id _ hlookup rfl ⟨⟨rfl, rfl, rfl⟩, rfl⟩ rfl (lock_setLock _ none) rfl rfl rfl
    · exact hidle
  | cancel id =>
    simp only [step]
    split
    · next hlookup => exact .cancel id hlookup ⟨⟨rfl, rfl, rfl⟩, rfl⟩ rfl rfl rfl rfl
    · exact hidle

/-! ### The lock makes validation and swap one step -/

/-- A reload past the lock holds it, and its candidate is still fresh. -/
def Serialized (b : Broker env) : Prop :=
  ∀ id stage, b.attempts.lookup id = some stage → stage.inside = true →
    b.lock = some id ∧ ∀ c, stage.candidate = some c → Fresh b c

theorem Fresh.of_sameServing (h : Fresh b c) (hsame : SameServing b b') : Fresh b' c := by
  unfold Fresh
  rw [hsame.generation_eq, hsame.tombstones_eq]
  exact h

theorem candidate_of_decided (h : stage.decided = true) : stage.candidate = none := by
  cases stage <;> first | rfl | cases h

theorem Serialized.outside (h : Serialized b) {other : Nat} {stage' : Stage env}
    (hlookup : b.attempts.lookup id = some stage) (hinside : stage.inside = true)
    (hother : b.attempts.lookup other = some stage') (hne : other ≠ id) : stage'.inside ≠ true := by
  intro hinside'
  have hheld := (h id stage hlookup hinside).1
  have hheld' := (h other stage' hother hinside').1
  rw [hheld] at hheld'
  exact hne (Option.some.inj hheld').symm

theorem serialized_effect {reply : Reply env} (h : Serialized b) (heffect : Effect b b' reply) :
    Serialized b' := by
  intro other stage₁ hlookup₁ hinside₁
  -- a reload that the step does not touch keeps lock and candidate
  have hkept : ∀ {b'' : Broker env}, SameServing b b'' → b''.lock = b.lock →
      b.attempts.lookup other = some stage₁ →
      b''.lock = some other ∧ ∀ c, stage₁.candidate = some c → Fresh b'' c := by
    intro b'' hsame hlock hlookup
    have hold := h other stage₁ hlookup hinside₁
    exact ⟨hlock.trans hold.1, fun c hc => (hold.2 c hc).of_sameServing hsame⟩
  cases heffect with
  | idle serving attempts lock =>
    rw [attempts] at hlookup₁
    exact hkept serving lock hlookup₁
  | start serving attempts lock =>
    rw [attempts, Table.lookup_insert_eq] at hlookup₁
    split at hlookup₁
    · cases hlookup₁
      cases hinside₁
    · exact hkept serving lock hlookup₁
  | acquire id waiting free serving attempts lock next =>
    rw [attempts, Table.lookup_insert_eq] at hlookup₁
    split at hlookup₁
    · next heq =>
      cases hlookup₁
      rw [heq]
      exact ⟨lock, nofun⟩
    · have hheld := (h other stage₁ hlookup₁ hinside₁).1
      rw [free] at hheld
      cases hheld
  | advance id stage stage' lookup inside undecided serving attempts lock next candidate swap
      decides =>
    rw [attempts, Table.lookup_insert_eq] at hlookup₁
    split at hlookup₁
    · next heq =>
      cases hlookup₁
      have hold := h id stage lookup inside
      rw [heq]
      refine ⟨lock.trans hold.1, ?_⟩
      intro c hc
      rcases candidate c hc with hsame | hfresh
      · exact (hold.2 c hsame).of_sameServing serving
      · exact hfresh.of_sameServing serving
    · exact hkept serving lock hlookup₁
  | finish id stage lookup inside serving attempts lock next =>
    rw [attempts, Table.lookup_erase_eq] at hlookup₁
    split at hlookup₁
    · cases hlookup₁
    · next hne => exact absurd hinside₁ (h.outside lookup inside hlookup₁ hne)
  | swap id stage stage' c lookup inside candidate serving attempts decided lock next =>
    rw [attempts, Table.lookup_insert_eq] at hlookup₁
    split at hlookup₁
    · next heq =>
      cases hlookup₁
      rw [heq]
      refine ⟨lock.trans (h id stage lookup inside).1, ?_⟩
      intro c' hc'
      rw [candidate_of_decided decided] at hc'
      cases hc'
    · next hne => exact absurd hinside₁ (h.outside lookup inside hlookup₁ hne)
  | cancel id waiting serving attempts lock =>
    rw [attempts, Table.lookup_erase_eq] at hlookup₁
    split at hlookup₁
    · cases hlookup₁
    · exact hkept serving lock hlookup₁

theorem Serialized.step_serving (h : Serialized b) (action : Action env) :
    ((b.step action).2.swap? = none ∧ SameServing b (b.step action).1) ∨
      ∃ id c, Fresh b c ∧ (b.step action).2.swap? = some (b.swap id c) ∧
        SameState (b.install c) (b.step action).1 := by
  have heffect := step_effect (b := b) action
  generalize (b.step action).2 = reply at heffect ⊢
  have hquiet : reply.decides = none → reply.swap? = none := by
    intro hdecides
    cases reply <;> first | rfl | cases hdecides
  cases heffect with
  | idle serving attempts lock next quiet
  | start serving attempts lock next quiet
  | acquire id waiting free serving attempts lock next quiet
  | cancel id waiting serving attempts lock next quiet => exact .inl ⟨hquiet quiet, serving⟩
  | advance id stage stage' lookup inside undecided serving attempts lock next candidate swap
  | finish id stage lookup inside serving attempts lock next swap => exact .inl ⟨swap, serving⟩
  | swap id stage stage' c lookup inside candidate serving =>
    exact .inr ⟨id, c, (h id stage lookup inside).2 c candidate, rfl, serving⟩

end Broker

end Basil.Reload
