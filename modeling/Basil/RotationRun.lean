import Basil.Lib.Table
import Basil.RotationGrace

/-!
# The grace floor under interleaved rotations (`core/manager.rs`, `core/backend/transit.rs`)

A rotation adds a version to the key, reads which version that is and sets the floor for it, in
three requests to the server. Between two of them any request of the others may be served.
-/

namespace Basil.RotationRun

open Rotation Transit Trace Proc

/-- The next request of a rotation or of a retention sweep. -/
inductive Stage where
  | addVersion
  | readVersion
  | setFloor (version : Nat)
  | readMetadata
  | setAvailable (floor : Nat)

inductive Outcome where
  | rotated (result : Except BackendError Nat)
  | swept (result : Except BackendError Unit)

def Outcome.Ok : Outcome → Prop
  | rotated result => ∃ version, result = .ok version
  | swept result => result = .ok ()

structure Broker (ν : Type) where
  server : ν
  calls : Table Nat Stage

inductive Action where
  | rotate (id : Nat)
  | sweep (id : Nat)
  | resume (id : Nat)

section Step

variable {κ ν : Type} (E : TransitEngine κ ν) (limits : BrokerLimits) (retainVersions : Option Nat)
  (path : String)

/-- One request is served: the call goes on, or it returns. -/
def serve (v : ν) : Stage → ν × (Stage ⊕ Outcome)
  | .addVersion =>
      match (E.rotateKey path).exec v with
      | (.ok (), v) => (v, .inl .readVersion)
      | (.error err, v) => (v, .inr (.rotated (.error err)))
  | .readVersion =>
      match (E.readKey path).exec v with
      | (.ok key, v) => (v, .inl (.setFloor (latestVersion key)))
      | (.error err, v) => (v, .inr (.rotated (.error err)))
  | .setFloor version =>
      match (configureVersions E path (some (limits.graceFloor version)) none).exec v with
      | (.ok (), v) | (.error (.unsupported _), v) => (v, .inr (.rotated (.ok version)))
      | (.error err, v) => (v, .inr (.rotated (.error err)))
  | .readMetadata =>
      match (readKeyMetadata E path).exec v with
      | (.ok metadata, v) =>
          match Manager.retentionFloor retainVersions metadata.latestVersion with
          | none => (v, .inr (.swept (.ok ())))
          | some floor => (v, .inl (.setAvailable floor))
      | (.error err, v) => (v, .inr (.swept (.error err)))
  | .setAvailable floor =>
      match (configureVersions E path none (some floor)).exec v with
      | (result, v) => (v, .inr (.swept result))

def start (s : Broker ν) (id : Nat) (stage : Stage) : Broker ν :=
  match s.calls.lookup id with
  | none => { s with calls := s.calls.insert id stage }
  | some _ => s

def step (s : Broker ν) : Action → Broker ν × Option Outcome
  | .rotate id => (start s id .addVersion, none)
  | .sweep id => (start s id .readMetadata, none)
  | .resume id =>
      match s.calls.lookup id with
      | none => (s, none)
      | some stage =>
          match serve E limits retainVersions path s.server stage with
          | (v, .inl next) => (⟨v, s.calls.insert id next⟩, none)
          | (v, .inr outcome) => (⟨v, s.calls.erase id⟩, some outcome)

end Step

/-! ### The stages and the manager's functions -/

section Alone

variable {κ ν : Type} (E : TransitEngine κ ν) (limits : BrokerLimits) (retainVersions : Option Nat)
  (path : String)

/-- The requests of one call, served with nothing in between. -/
def runAlone : Nat → ν → Stage → ν × Option Outcome
  | 0, v, _ => (v, none)
  | n + 1, v, stage =>
      match serve E limits retainVersions path v stage with
      | (v, .inl next) => runAlone n v next
      | (v, .inr outcome) => (v, some outcome)

variable {E} {C : TransitCrypto κ} {prims : Primitives} {m : Manager ν} {routed : Routed}
  (hbackend : m.backend routed = adapter E C prims)
include hbackend

theorem rotateCrypto_eq_stages (v : ν) :
    ∃ result v', runAlone E limits retainVersions routed.entry.path 3 v .addVersion =
        (v', some (.rotated result)) ∧
      (m.rotateCrypto limits routed).exec v = (result.mapError .backend, v') := by
  simp only [runAlone, serve, Manager.rotateCrypto, hbackend, adapter, rotate, exec_bind, exec_mapErr,
    exec_attempt, exec_pure]
  rcases (E.rotateKey routed.entry.path).exec v with ⟨_ | _, v₁⟩
  · exact ⟨_, _, rfl, rfl⟩
  · dsimp only
    rcases (E.readKey routed.entry.path).exec v₁ with ⟨_ | key, v₂⟩
    · exact ⟨_, _, rfl, rfl⟩
    · dsimp only [Except.mapError]
      rcases (configureVersions E routed.entry.path (some (limits.graceFloor (latestVersion key)))
        none).exec v₂ with ⟨err | _, v₃⟩
      · cases err <;> exact ⟨_, _, rfl, rfl⟩
      · exact ⟨_, _, rfl, rfl⟩

theorem sweepRetention_eq_stages {keyId : String} {v : ν}
    (hroute : (m.route keyId).exec v = (.ok routed, v))
    (hclass : routed.entry.keyClass = .asymmetric ∨ routed.entry.keyClass = .symmetric) :
    ∃ result v', runAlone E limits retainVersions routed.entry.path 2 v .readMetadata =
        (v', some (.swept result)) ∧
      (m.sweepRetention keyId retainVersions).exec v = (result.mapError .backend, v') := by
  have hallowed : requireClass "rotate" keyId routed.entry.keyClass [.asymmetric, .symmetric] = .ok () :=
    ensure_pos (by simpa using hclass) _
  rw [Manager.sweepRetention, exec_bind_of_ok hroute, hallowed, check_ok_bind]
  simp only [runAlone, serve, hbackend, adapter, exec_bind, exec_mapErr]
  rcases (readKeyMetadata E routed.entry.path).exec v with ⟨_ | metadata, v₁⟩
  · exact ⟨_, _, rfl, rfl⟩
  · dsimp only [Except.mapError]
    cases Manager.retentionFloor retainVersions metadata.latestVersion with
    | none => exact ⟨_, _, rfl, rfl⟩
    | some floor => exact ⟨_, _, rfl, rfl⟩

end Alone

/-! ### Runs -/

/-- The rotation has added its version and not yet set the floor. -/
def Stage.Unsettled : Stage → Prop
  | readVersion | setFloor _ => True
  | _ => False

instance : DecidablePred Stage.Unsettled
  | .readVersion | .setFloor _ => .isTrue trivial
  | .addVersion | .readMetadata | .setAvailable _ => .isFalse id

section Runs

variable {κ ν : Type} (E : TransitEngine κ ν) (keys : ν → String → Option (TransitKey κ))
  (limits : BrokerLimits) (retainVersions : Option Nat) (path : String)

def Settled (s : Broker ν) : Prop := ∀ id stage, s.calls.lookup id = some stage → ¬ stage.Unsettled

/-- A version is added only while every earlier rotation has set its floor. -/
def Serial (s : Broker ν) (a : Action) : Prop :=
  ∀ id, a = .resume id → s.calls.lookup id = some .addVersion → Settled s ∧
    ∀ key, keys s.server path = some key → key.latest + 1 ≤ u32Max

def Succeeds (s : Broker ν) (a : Action) : Prop :=
  ∀ outcome, (step E limits retainVersions path s a).2 = some outcome → outcome.Ok

structure Tracked (first : TransitKey κ) (s : Broker ν) (key : TransitKey κ) : Prop where
  key_eq : keys s.server path = some key
  fits : key.latest ≤ u32Max
  current : ∀ id version, s.calls.lookup id = some (.setFloor version) → version = key.latest
  floor : Settled s →
    key.latest = first.latest ∨ key.minDecryptionVersion = limits.graceFloor key.latest

variable {E keys limits retainVersions path} {C : TransitCrypto κ} {prims : Primitives}
  {first key key' : TransitKey κ} {s : Broker ν} {id : Nat} {stage : Stage} {v : ν}

theorem Settled.of_insert (h : Settled ⟨v, s.calls.insert id stage⟩)
    (hid : ∀ old, s.calls.lookup id = some old → ¬ old.Unsettled) : Settled s := by
  intro other old hold
  by_cases hother : other = id
  · exact hid old (hother ▸ hold)
  · exact h other old ((AList.lookup_insert_ne hother).trans hold)

theorem Settled.of_erase (h : Settled ⟨v, s.calls.erase id⟩)
    (hid : ∀ old, s.calls.lookup id = some old → ¬ old.Unsettled) : Settled s := by
  intro other old hold
  by_cases hother : other = id
  · exact hid old (hother ▸ hold)
  · exact h other old ((AList.lookup_erase_ne hother).trans hold)

theorem not_settled_insert (h : stage.Unsettled) : ¬ Settled ⟨v, s.calls.insert id stage⟩ :=
  fun hsettled => hsettled id stage (AList.lookup_insert _) h

namespace Tracked

variable (h : Tracked keys limits path first s key)
include h

theorem goesOn (hkey : keys v path = some key') (hlatest : key'.latest = key.latest)
    (hcurrent : ∀ version, stage = .setFloor version → version = key.latest)
    (hfloor : Settled ⟨v, s.calls.insert id stage⟩ →
      key'.latest = first.latest ∨ key'.minDecryptionVersion = limits.graceFloor key'.latest) :
    Tracked keys limits path first ⟨v, s.calls.insert id stage⟩ key' := by
  refine ⟨hkey, hlatest ▸ h.fits, ?_, hfloor⟩
  intro other version hlookup
  rw [hlatest]
  rw [Table.lookup_insert_eq] at hlookup
  split at hlookup
  · exact hcurrent version (Option.some.inj hlookup)
  · exact h.current other version hlookup

theorem returns (hkey : keys v path = some key') (hlatest : key'.latest = key.latest)
    (hfloor : Settled ⟨v, s.calls.erase id⟩ →
      key'.latest = first.latest ∨ key'.minDecryptionVersion = limits.graceFloor key'.latest) :
    Tracked keys limits path first ⟨v, s.calls.erase id⟩ key' := by
  refine ⟨hkey, hlatest ▸ h.fits, ?_, hfloor⟩
  intro other version hlookup
  rw [hlatest]
  exact h.current other version (Table.lookup_of_erase hlookup)

theorem started (hstage : ¬ stage.Unsettled) :
    Tracked keys limits path first (start s id stage) key := by
  unfold start
  cases hid : s.calls.lookup id with
  | some old => exact h
  | none =>
    refine h.goesOn h.key_eq rfl ?_ ?_
    · rintro version rfl
      exact absurd trivial hstage
    · intro hsettled
      exact h.floor (hsettled.of_insert fun old hold => by cases hid.symm.trans hold)

end Tracked

section Served

variable (hlaws : E.Laws C prims keys) (h : Tracked keys limits path first s key)
include hlaws h

/-- One case for each request: what the laws say of the key after it. -/
theorem tracked_resume (hserial : Serial keys path s (.resume id))
    (hok : Succeeds E limits retainVersions path s (.resume id)) :
    ∃ key', Tracked keys limits path first
      (step E limits retainVersions path s (.resume id)).1 key' := by
  simp only [Succeeds, step] at hok ⊢
  cases hid : s.calls.lookup id with
  | none => exact ⟨key, h⟩
  | some stage =>
    simp only [hid] at hok
    have hsame : ¬ stage.Unsettled → ∀ old, s.calls.lookup id = some old → ¬ old.Unsettled := by
      intro hstage old hold
      cases hid.symm.trans hold
      exact hstage
    cases stage with
    | addVersion =>
      obtain ⟨hsettled, hfits⟩ := hserial id rfl hid
      simp only [serve] at hok ⊢
      rcases hadd : (E.rotateKey path).exec s.server with ⟨err | _, v⟩
      · simp [hadd, Outcome.Ok] at hok
      · obtain ⟨old, k, hold, hnew⟩ := hlaws.rotate_appends hadd
        cases h.key_eq.symm.trans hold
        refine ⟨_, hnew, (key.latest_bump k).trans_le (hfits key hold), ?_,
          fun hnow => absurd hnow (not_settled_insert trivial)⟩
        -- No other rotation stands between its version and its floor.
        intro other version hlookup
        rw [Table.lookup_insert_eq] at hlookup
        split at hlookup
        · cases hlookup
        · exact absurd trivial (hsettled other _ hlookup)
    | readVersion =>
      simp only [serve] at hok ⊢
      rcases hread : (E.readKey path).exec s.server with ⟨err | read, v⟩
      · simp [hread, Outcome.Ok] at hok
      · obtain ⟨hold, hnew⟩ := hlaws.read_returns_key hread
        cases h.key_eq.symm.trans hold
        refine ⟨_, h.goesOn hnew rfl ?_ fun hnow => absurd hnow (not_settled_insert trivial)⟩
        rintro version ⟨⟩
        exact Nat.min_eq_left h.fits
    | setFloor version =>
      simp only [serve, configureVersions] at hok ⊢
      rcases hset : (E.configKey path (some (limits.graceFloor version)) none).exec s.server with
        ⟨err | _, v⟩
      · cases err
        case unsupported => exact absurd hset hlaws.config_supported
        all_goals simp [hset, Outcome.Ok] at hok
      · obtain ⟨old, hold, hnew⟩ := hlaws.config_sets_floor hset
        cases h.key_eq.symm.trans hold
        rw [h.current id version hid] at hnew
        exact ⟨_, h.returns hnew rfl fun _ => .inr rfl⟩
    | readMetadata =>
      simp only [serve, readKeyMetadata, exec_bind] at hok ⊢
      rcases hread : (E.readKey path).exec s.server with ⟨err | read, v⟩
      · simp [hread, Outcome.Ok] at hok
      · obtain ⟨hold, hnew⟩ := hlaws.read_returns_key hread
        cases h.key_eq.symm.trans hold
        dsimp only [exec_pure]
        cases Manager.retentionFloor retainVersions (latestVersion key) with
        | none => exact ⟨_, h.returns hnew rfl fun hnow => h.floor (hnow.of_erase (hsame not_false))⟩
        | some floor =>
          refine ⟨_, h.goesOn hnew rfl ?_ fun hnow => h.floor (hnow.of_insert (hsame not_false))⟩
          rintro version ⟨⟩
    | setAvailable floor =>
      simp only [serve, configureVersions] at hok ⊢
      rcases hset : (E.configKey path none (some floor)).exec s.server with ⟨err | _, v⟩
      · simp [hset, Outcome.Ok] at hok
      · obtain ⟨old, hold, hnew⟩ := hlaws.config_sets_floor hset
        cases h.key_eq.symm.trans hold
        exact ⟨_, h.returns hnew rfl fun hnow => h.floor (hnow.of_erase (hsame not_false))⟩

theorem tracked_step {a : Action} (hserial : Serial keys path s a)
    (hok : Succeeds E limits retainVersions path s a) :
    ∃ key', Tracked keys limits path first (step E limits retainVersions path s a).1 key' := by
  cases a with
  | rotate id => exact ⟨key, h.started not_false⟩
  | sweep id => exact ⟨key, h.started not_false⟩
  | resume id => exact tracked_resume hlaws h hserial hok

end Served

variable (E keys limits retainVersions path)

/-- The run is serial and every call that returns has succeeded. -/
def Good (s : Broker ν) (actions : List Action) : Prop :=
  Along (step E limits retainVersions path)
    (fun s a => Serial keys path s a ∧ Succeeds E limits retainVersions path s a) s actions

end Runs

theorem serial_rotations_set_floor {κ ν : Type} {E : TransitEngine κ ν} {C : TransitCrypto κ}
    {prims : Primitives} {keys : ν → String → Option (TransitKey κ)} (hlaws : E.Laws C prims keys)
    (limits : BrokerLimits) (retainVersions : Option Nat) (path : String) (v : ν)
    {first : TransitKey κ} (hfirst : keys v path = some first) (hfits : first.latest ≤ u32Max)
    (actions : List Action) (hgood : Good E keys limits retainVersions path ⟨v, ∅⟩ actions)
    (hreturned : (final (step E limits retainVersions path) ⟨v, ∅⟩ actions).calls = ∅) :
    ∃ key, keys (final (step E limits retainVersions path) ⟨v, ∅⟩ actions).server path = some key ∧
      (key.latest = first.latest ∨ key.minDecryptionVersion = limits.graceFloor key.latest) := by
  have hinit : ∃ key, Tracked keys limits path first ⟨v, ∅⟩ key :=
    ⟨first, hfirst, hfits, nofun, fun _ => .inl rfl⟩
  obtain ⟨key, hkey⟩ := invariant_along (fun s => ∃ key, Tracked keys limits path first s key)
    (fun s a ⟨hserial, hok⟩ ⟨_, htracked⟩ => tracked_step hlaws htracked hserial hok) hinit hgood
  refine ⟨key, hkey.key_eq, hkey.floor fun id stage hlookup => ?_⟩
  rw [hreturned] at hlookup
  cases hlookup

/-! ### A key on the server in memory -/

def strictLimits : BrokerLimits := ⟨1048576, 1048576, 0⟩

abbrev signerStep : Broker (Vault Nat) → Action → Broker (Vault Nat) × Option Outcome :=
  step (Vault.engine countingCrypto signerPrims) strictLimits (some 1) "token-signer"

theorem settled_of_entries {ν : Type} {s : Broker ν} (h : ∀ e ∈ s.calls.entries, ¬ e.2.Unsettled) :
    Settled s :=
  fun _ _ hlookup => h _ (AList.mem_lookup_iff.mp hlookup)

/-- Two rotations one after the other, and a sweep between the requests of the first. -/
def sweptActions : List Action :=
  [.rotate 0, .sweep 1, .resume 0, .resume 1, .resume 0, .resume 1, .resume 0,
    .rotate 0, .resume 0, .resume 0, .resume 0]

theorem swept_rotations_set_floor :
    ∃ key, (final signerStep ⟨tokenVault, ∅⟩ sweptActions).server.keys "token-signer" = some key ∧
      (key.latest = 1 ∨ key.minDecryptionVersion = strictLimits.graceFloor key.latest) := by
  refine serial_rotations_set_floor (Vault.engine_laws countingCrypto signerPrims) strictLimits (some 1)
    "token-signer" tokenVault (show _ = some ⟨.ed25519, 0, [], 1⟩ from rfl) (by decide) sweptActions
    ?_ rfl
  have hadds : ∀ {s : Broker (Vault Nat)} {key}, (∀ e ∈ s.calls.entries, ¬ e.2.Unsettled) →
      s.server.keys "token-signer" = some key → key.latest < 3 → ∀ id,
      Serial Vault.keys "token-signer" s (.resume id) := by
    intro s key hentries hkey hlatest id _ _ _
    refine ⟨settled_of_entries hentries, fun _ hkey' => ?_⟩
    cases hkey.symm.trans hkey'
    exact hlatest.trans (by decide)
  have hwaits : ∀ {s : Broker (Vault Nat)} {id}, s.calls.lookup id ≠ some .addVersion →
      Serial Vault.keys "token-signer" s (.resume id) := by
    rintro s id hne _ ⟨⟩ hid
    exact absurd hid hne
  refine ⟨⟨nofun, nofun⟩, ⟨nofun, nofun⟩, ⟨hadds (by decide) rfl (by decide) 0, nofun⟩,
    ⟨hwaits nofun, nofun⟩, ⟨hwaits nofun, nofun⟩, ⟨hwaits nofun, ?_⟩, ⟨hwaits nofun, ?_⟩,
    ⟨nofun, nofun⟩, ⟨hadds (by decide) rfl (by decide) 0, nofun⟩, ⟨hwaits nofun, nofun⟩,
    ⟨hwaits nofun, ?_⟩, trivial⟩
  · rintro _ ⟨⟩
    rfl
  · rintro _ ⟨⟩
    exact ⟨2, rfl⟩
  · rintro _ ⟨⟩
    exact ⟨3, rfl⟩

/-- The rotation that reads version 2 waits, another one adds version 3 and sets its floor, and the
first one then lowers it. -/
def overtakenActions : List Action :=
  [.rotate 0, .rotate 1, .resume 0, .resume 0, .resume 1, .resume 1, .resume 1, .resume 0]

def Outcome.version? : Outcome → Option Nat
  | rotated result => result.toOption
  | swept _ => none

theorem overtaken_rotation_lowers_floor :
    (events signerStep ⟨tokenVault, ∅⟩ overtakenActions).filterMap (·.2.bind Outcome.version?) =
      [3, 2] ∧
    let s := final signerStep ⟨tokenVault, ∅⟩ overtakenActions
    s.calls = ∅ ∧
    (s.server.keys "token-signer").map (fun key => (key.latest, key.minDecryptionVersion)) =
      some (3, 2) ∧
    strictLimits.graceFloor 3 = 3 :=
  ⟨rfl, rfl, by decide, by decide⟩

end Basil.RotationRun
