import Basil.CiRuleSelection
import Basil.Manager
import Basil.Reload
import Basil.Revocation

/-!
# Builders of the broker state

`with_override_provenance` and `with_listener_configs` make the generation anew from its other
parts and leave out the federation catalog.
-/

namespace Basil.Reload

open CiFederation Revocation

/-- What the builders only store, and the clients of a provider catalog. -/
structure BuilderEnv extends FederationEnv where
  OverrideProvenance : Type
  AuditLog : Type
  ReloadInputs : Type
  Client : Type
  buildGenerationClients : ProviderCatalog toFederationEnv →
    Except FederationError (List (String × Client))

variable (env : BuilderEnv)

structure FederationState where
  federation : Option (ProviderCatalog env.toFederationEnv) := none
  jwksCaches : List (String × GenerationJwksCache) := []
  providerClients : List (String × env.Client) := []

structure ActiveGeneration extends Generation, FederationState env where
  overrides : List env.OverrideProvenance := []
  -- `none`: the default, empty set
  listeners : Option ListenerConfigSet := none

structure BrokerState where
  generation : ActiveGeneration env
  limits : BrokerLimits
  agentVersion : String
  audit : Option env.AuditLog := none
  jwtRevocations : JwtRevocationStore := .default
  reloadInputs : Option env.ReloadInputs := none

inductive Builder where
  | overrideProvenance (overrides : List env.OverrideProvenance)
  | auditLog (audit : env.AuditLog)
  | jwtRevocations (store : JwtRevocationStore)
  | version (v : String)
  | reloadInputs (inputs : env.ReloadInputs)
  | listenerConfigs (listeners : ListenerConfigSet)
  | federationCatalog (federation : Option (ProviderCatalog env.toFederationEnv))

variable {env}

def newWithOverridesAndListeners (g : Generation) (overrides : List env.OverrideProvenance)
    (listeners : Option ListenerConfigSet) : ActiveGeneration env := { g with overrides, listeners }

def withLimits (g : Generation) (limits : BrokerLimits) : BrokerState env :=
  { generation := newWithOverridesAndListeners g [] none, limits, agentVersion := "0.8.0-alpha.1" }

def newFederation (catalog : Catalog) : Option (ProviderCatalog env.toFederationEnv) →
    Except FederationError (FederationState env)
  | none => .ok {}
  | some federation => do
      validateArtifactTargets federation catalog
      let clients ← env.buildGenerationClients federation
      let caches ← federation.rules.mapM fun rule => do
        rule.provider.validate env.toFederationEnv
        return (rule.id, .new .default)
      return ⟨federation, caches, clients⟩

namespace Builder

def apply (s : BrokerState env) : Builder env → Except FederationError (BrokerState env)
  | overrideProvenance overrides =>
      let g := s.generation
      .ok { s with generation := newWithOverridesAndListeners g.toGeneration overrides g.listeners }
  | auditLog audit => .ok { s with audit := some audit }
  | jwtRevocations store => .ok { s with jwtRevocations := store }
  | version v => .ok { s with agentVersion := v }
  | reloadInputs inputs => .ok { s with reloadInputs := some inputs }
  | listenerConfigs listeners =>
      let g := s.generation
      .ok { s with generation := newWithOverridesAndListeners g.toGeneration g.overrides listeners }
  | federationCatalog federation => do
      let federation ← newFederation s.generation.catalog federation
      return { s with generation := { s.generation with toFederationState := federation } }

/-- `s'` with the builder's own component as it is in `s`. -/
def restore (s s' : BrokerState env) : Builder env → BrokerState env
  | overrideProvenance _ => { s' with generation.overrides := s.generation.overrides }
  | auditLog _ => { s' with audit := s.audit }
  | jwtRevocations _ => { s' with jwtRevocations := s.jwtRevocations }
  | version _ => { s' with agentVersion := s.agentVersion }
  | reloadInputs _ => { s' with reloadInputs := s.reloadInputs }
  | listenerConfigs _ => { s' with generation.listeners := s.generation.listeners }
  | federationCatalog _ =>
      { s' with generation.toFederationState := s.generation.toFederationState }

def rebuilds : Builder env → Bool
  | overrideProvenance _ | listenerConfigs _ => true
  | _ => false

def installs : Builder env → Bool
  | federationCatalog (some _) => true
  | _ => false

variable {b c : Builder env} {s s' : BrokerState env}

def ChangesOwn (s : BrokerState env) (b : Builder env) : Prop :=
  ∀ s', b.apply s = .ok s' → b.restore s s' = s

def Commute (s : BrokerState env) (b c : Builder env) : Prop :=
  (b.apply s >>= (apply · c)) = (c.apply s >>= (apply · b))

/-- `b` makes the generation anew and `c` installs a catalog that is not refused. -/
def Drops (s : BrokerState env) (b c : Builder env) : Prop :=
  b.rebuilds = true ∧ c.installs = true ∧ ∃ s', c.apply s = .ok s'

theorem changesOwn_iff :
    ChangesOwn s b ↔ (b.rebuilds = true → s.generation.toFederationState = {}) := by
  obtain ⟨⟨g, federation, overrides, listeners⟩, limits, version, audit, store, inputs⟩ := s
  cases b with
  | overrideProvenance | listenerConfigs =>
    constructor
    · intro h _
      exact congrArg (fun s => s.generation.toFederationState) (h _ rfl).symm
    · intro hs _ h
      obtain rfl : federation = {} := hs rfl
      cases h
      rfl
  | federationCatalog =>
    refine ⟨fun _ => by simp [rebuilds], fun _ s' h => ?_⟩
    simp only [apply, eq_ok] at h
    obtain ⟨_, -, rfl⟩ := h
    rfl
  | _ =>
    refine ⟨fun _ => by simp [rebuilds], fun _ s' h => ?_⟩
    cases h
    rfl

theorem newFederation_some {catalog : Catalog} {federation : ProviderCatalog env.toFederationEnv}
    {f : FederationState env} (h : newFederation catalog (some federation) = .ok f) :
    f.federation = some federation := by
  simp only [newFederation, eq_ok] at h
  obtain ⟨_, -, _, -, _, -, rfl⟩ := h
  rfl

theorem federation_commute_iff {federation : Option (ProviderCatalog env.toFederationEnv)}
    (hne : c.ctorIdx ≠ (federationCatalog federation).ctorIdx) :
    Commute s c (federationCatalog federation) ↔ ¬ Drops s c (federationCatalog federation) := by
  cases hnew : newFederation s.generation.catalog federation with
  | error e =>
    refine iff_of_true ?_ ?_
    · cases c with
      | federationCatalog => exact absurd rfl hne
      | _ => simp [Commute, apply, hnew, newWithOverridesAndListeners]
    · rintro ⟨-, -, _, h⟩
      simp [apply, hnew] at h
  | ok f =>
    cases c with
    | federationCatalog => exact absurd rfl hne
    | overrideProvenance | listenerConfigs =>
      cases federation with
      | none =>
        cases hnew
        exact iff_of_true rfl (by rintro ⟨-, ⟨⟩, -⟩)
      | some federation =>
        refine iff_of_false ?_ (not_not.mpr ⟨rfl, rfl, _, by simp only [apply, hnew]; rfl⟩)
        intro hcommute
        simp only [Commute, apply, newWithOverridesAndListeners, hnew, ok_bind] at hcommute
        -- one order ends with the catalog, the other without
        have hsome := newFederation_some hnew
        have hnone := congrArg (fun s => s.generation.federation) (Except.ok.inj hcommute)
        cases hsome.symm.trans hnone
    | _ =>
      refine iff_of_true ?_ (by rintro ⟨⟨⟩, -⟩)
      simp [Commute, apply, hnew]

theorem commute_comm : Commute s b c ↔ Commute s c b := eq_comm

theorem commute_iff (hne : b.ctorIdx ≠ c.ctorIdx) :
    Commute s b c ↔ ¬ Drops s b c ∧ ¬ Drops s c b := by
  cases c with
  | federationCatalog =>
    rw [federation_commute_iff hne, and_iff_left]
    rintro ⟨⟨⟩, -⟩
  | _ =>
    cases b with
    | federationCatalog =>
      rw [commute_comm, federation_commute_iff hne.symm, and_iff_right]
      rintro ⟨⟨⟩, -⟩
    | _ =>
      refine iff_of_true ?_ ⟨by rintro ⟨-, ⟨⟩, -⟩, by rintro ⟨-, ⟨⟩, -⟩⟩
      first | rfl | exact absurd rfl hne

theorem builders_independent (hne : b.ctorIdx ≠ c.ctorIdx) :
    (ChangesOwn s b ∧ ChangesOwn s c ∧ Commute s b c) ↔
      (b.rebuilds = true ∨ c.rebuilds = true → s.generation.toFederationState = {}) ∧
        ¬ Drops s b c ∧ ¬ Drops s c b := by
  rw [changesOwn_iff, changesOwn_iff, commute_iff hne, or_imp, and_assoc]

end Builder

def builderEnv : BuilderEnv where
  toFederationEnv := ciEnv
  OverrideProvenance := Unit
  AuditLog := Unit
  ReloadInputs := Unit
  Client := Unit
  buildGenerationClients catalog := .ok (catalog.rules.map fun rule => (rule.id, ()))

def builtState : BrokerState builderEnv :=
  withLimits ⟨1, ⟨.empty, .empty⟩, ⟨.empty, []⟩, ⟨⟨.empty, .empty⟩, .empty⟩⟩ ⟨0, 0, 1⟩

theorem release_catalog : ∃ catalog, withExperimentalProviders ciEnv [releaseRule] [] = .ok catalog ∧
    catalog.rules = [releaseRule] :=
  withExperimentalProviders_ok.mpr (by decide)

theorem version_independent_of_federation :
    ∃ catalog, withExperimentalProviders ciEnv [releaseRule] [] = .ok catalog ∧
      (∃ s, (Builder.federationCatalog (some catalog)).apply builtState = .ok s ∧
        s.generation.federation = some catalog) ∧
      Builder.Commute builtState (.version "1") (.federationCatalog (some catalog)) := by
  obtain ⟨⟨rules, _, _, _⟩, hcatalog, rfl⟩ := release_catalog
  refine ⟨_, hcatalog, ⟨_, rfl, rfl⟩, ((Builder.builders_independent ?_).mpr ⟨?_, ?_, ?_⟩).2.2⟩
  · exact (by decide : 3 ≠ 6)
  · rintro (⟨⟨⟩⟩ | ⟨⟨⟩⟩)
  · rintro ⟨⟨⟩, -⟩
  · rintro ⟨⟨⟩, -⟩

theorem listeners_drop_federation :
    ∃ catalog, withExperimentalProviders ciEnv [releaseRule] [] = .ok catalog ∧
      ∃ s, (Builder.federationCatalog (some catalog)).apply builtState = .ok s ∧
        s.generation.toFederationState =
          ⟨some catalog, [("release", .new .default)], [("release", ())]⟩ ∧
        ∀ listeners, ∃ s', (Builder.listenerConfigs listeners).apply s = .ok s' ∧
          s'.generation.toFederationState = {} := by
  obtain ⟨⟨rules, _, _, _⟩, hcatalog, rfl⟩ := release_catalog
  exact ⟨_, hcatalog, _, rfl, rfl, fun _ => ⟨_, rfl, rfl⟩⟩

end Basil.Reload
