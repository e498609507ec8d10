import Basil.Lib.Trace
import Basil.Signing

/-!
# Reloads between the two decisions of a signing request

A request is authorized in the generation installed at that moment; if it is provider-dispatched,
its custody gate is decided in the generation installed when the gate is reached.
-/

namespace Basil.Signing

open Trace Proc Manager List

inductive Body where
  | newKey (body : NewKeyRequest)
  | sign (body : SignRequest)
  | verify (body : VerifyRequest)
  deriving DecidableEq

def Body.keyId : Body → String
  | newKey body => body.keyId
  | sign body => body.keyId
  | verify body => body.keyId

def Body.op : Body → Op
  | newKey _ => .newKey
  | sign _ => .sign
  | verify _ => .verify

inductive Plan where
  | newKey (body : NewKeyRequest) (route : NewKeyRoute)
  | sign (body : SignRequest) (route : Option SignatureAlgorithm)
  | verify (body : VerifyRequest) (route : Option SignatureAlgorithm)
  deriving DecidableEq

namespace Plan

def body : Plan → Body
  | newKey body _ => .newKey body
  | sign body _ => .sign body
  | verify body _ => .verify body

/-- The route goes through the crypto provider, which asks for the custody gate. -/
def takesGate : Plan → Bool
  | newKey _ (.classical _) => false
  | newKey _ _ => true
  | sign _ route => route.isSome
  | verify _ route => route.isSome

end Plan

inductive Response where
  | key (created : NewKey)
  | signature (signature : Bytes)
  | valid (valid : Bool)
  deriving DecidableEq

abbrev Reply := Except Status (Response × Option ProviderDispatch)

structure TakenDecision where
  generation : Generation
  actor : AuthenticatedActor
  op : Op
  key : String

inductive Phase where
  | authorized (actor : AuthenticatedActor) (plan : Plan)
  | done (reply : Reply)

structure Request where
  decisions : List TakenDecision
  phase : Phase

structure State where
  current : Generation
  installed : List Generation
  requests : Nat → Option Request

def startup (g : Generation) : State := ⟨g, [g], fun _ => none⟩

inductive Step (σ : Type) where
  | reload (catalog : Catalog) (policy : ResolvedPolicy) (config : PolicyConfig)
  | begin (id : Nat) (ctx : RequestContext) (body : Body)
  | finish (id : Nat) (store : σ) (entropy : Entropy)

section Machine

variable {σ : Type} (m : Manager σ) (limits : BrokerLimits)

def authorize (g : Generation) (ctx : RequestContext) : Body → Except Status (AuthenticatedActor × Plan)
  | .newKey body => do
      let (actor, route) ← newKeyAuthorize m g ctx body
      return (actor, .newKey body route)
  | .sign body => do
      let (actor, route) ← signAuthorize m limits g ctx body
      return (actor, .sign body route)
  | .verify body => do
      let (actor, route) ← verifyAuthorize m limits g ctx body
      return (actor, .verify body route)

def serve (gate : Bool) (entropy : Entropy) : Plan → Proc σ Status (Response × Option ProviderDispatch)
  | .newKey body route => do
      let (created, dispatch) ← newKeyServe m gate entropy body route
      return (.key created, dispatch)
  | .sign body route => do
      let (signature, dispatch) ← signServe m gate body route
      return (.signature signature, dispatch)
  | .verify body route => do
      let (valid, dispatch) ← verifyServe m gate body route
      return (.valid valid, dispatch)

/-- `authorize` decides only for a resolved caller on an admitting listener. -/
def operationDecision (g : Generation) (ctx : RequestContext) (op : Op) (key : String) :
    List TakenDecision :=
  match g.pdp.resolveLocalActor ctx.peer, enforceListenerDomain ctx op with
  | .ok actor, .ok () => [⟨g, actor, op, key⟩]
  | _, _ => []

def beginRequest (g : Generation) (ctx : RequestContext) (body : Body) : Request where
  decisions := operationDecision g ctx body.op body.keyId
  phase :=
    match authorize m limits g ctx body with
    | .ok (actor, plan) => .authorized actor plan
    | .error status => .done (.error status)

def gateDecision (g : Generation) (actor : AuthenticatedActor) (plan : Plan) : List TakenDecision :=
  if plan.takesGate then [⟨g, actor, .useSoftwareCustody, plan.body.keyId⟩] else []

def finishRequest (g : Generation) (decisions : List TakenDecision) (actor : AuthenticatedActor)
    (plan : Plan) (store : σ) (entropy : Entropy) : Request where
  decisions := decisions ++ gateDecision g actor plan
  phase :=
    .done ((serve m (providerGate g actor plan.body.keyId) entropy plan).exec store).1

def State.put (s : State) (id : Nat) (r : Request) : State :=
  { s with requests := Function.update s.requests id (some r) }

def step (s : State) : Step σ → State × Unit
  | .reload catalog policy config =>
      let next : Generation := ⟨s.current.id + 1, catalog, policy, config⟩
      (⟨next, next :: s.installed, s.requests⟩, ())
  | .begin id ctx body =>
      match s.requests id with
      | none => (s.put id (beginRequest m limits s.current ctx body), ())
      | some _ => (s, ())
  | .finish id store entropy =>
      match s.requests id with
      | some ⟨decisions, .authorized actor plan⟩ =>
          (s.put id (finishRequest m s.current decisions actor plan store entropy), ())
      | _ => (s, ())

end Machine

/-! ### The property -/

def TakenDecision.Counts (d : TakenDecision) (dispatch : Option ProviderDispatch) : Prop :=
  d.op = .useSoftwareCustody → dispatch.map ProviderDispatch.provider = some .localSoftware

structure Coherent (installed : List Generation) (r : Request) : Prop where
  one_generation : ∃ g, ∀ d ∈ r.decisions, d.generation = g
  granted : ∀ response dispatch, r.phase = .done (.ok (response, dispatch)) →
    ∃ g ∈ installed, ∀ d ∈ r.decisions, d.Counts dispatch →
      g.pdp.allows d.actor d.op d.key = true

def AllCoherent (s : State) : Prop := ∀ id r, s.requests id = some r → Coherent s.installed r

def Quiet {σ : Type} (s : State) : Step σ → Prop
  | .reload .. => ∀ id decisions actor plan,
      s.requests id = some ⟨decisions, .authorized actor plan⟩ → plan.takesGate = false
  | _ => True

/-! ### What the two halves of a request decide -/

section Halves

variable {σ : Type} {m : Manager σ} {limits : BrokerLimits} {g : Generation} {ctx : RequestContext}
  {body : Body} {actor : AuthenticatedActor} {plan : Plan}

theorem authorize_ok (h : authorize m limits g ctx body = .ok (actor, plan)) :
    authorizeInGeneration g ctx body.op body.keyId = .ok actor ∧ plan.body = body := by
  cases body with
  | newKey =>
    simp only [authorize, newKeyAuthorize, eq_ok] at h
    obtain ⟨_, ⟨actor', hactor, _, -, _, -, rfl⟩, hplan⟩ := h
    cases hplan
    exact ⟨hactor, rfl⟩
  | sign =>
    simp only [authorize, signAuthorize, eq_ok] at h
    obtain ⟨_, ⟨actor', hactor, _, -, _, -, _, -, rfl⟩, hplan⟩ := h
    cases hplan
    exact ⟨hactor, rfl⟩
  | verify =>
    simp only [authorize, verifyAuthorize, eq_ok] at h
    obtain ⟨_, ⟨actor', hactor, _, -, _, -, _, -, rfl⟩, hplan⟩ := h
    cases hplan
    exact ⟨hactor, rfl⟩

theorem operationDecision_of_ok {op : Op} {key : String}
    (h : authorizeInGeneration g ctx op key = .ok actor) :
    operationDecision g ctx op key = [⟨g, actor, op, key⟩] := by
  obtain ⟨hactor, hlistener, -⟩ := authorizeInGeneration_ok.mp h
  unfold operationDecision
  have hdomain : enforceListenerDomain ctx op = .ok () := by
    simp [enforceListenerDomain, hlistener]
  rw [hactor, hdomain]

section Served

variable {gate : Bool} {entropy : Entropy}

theorem admits_none {ε α : Type} (a : α) :
    Admits gate Prod.snd (pure (a, none) : Proc σ ε (α × Option ProviderDispatch)) := by
  intro s r s' h d hd
  cases h
  cases hd

theorem newKeyServe_gated (body : NewKeyRequest) (route : NewKeyRoute) :
    Admits gate Prod.snd (newKeyServe m gate entropy body route) := by
  cases route with
  | mlDsa => exact (providerGenerate_gated.mapErr _).returns fun _ => rfl
  | mlKem => exact (providerGenerateSealing_gated.mapErr _).returns fun _ => rfl
  | classical => exact .after admits_none

theorem signServe_gated (body : SignRequest) (route : Option SignatureAlgorithm) :
    Admits gate Prod.snd (signServe m gate body route) := by
  cases route with
  | some algorithm => exact (providerSign_gated.mapErr _).returns fun _ => rfl
  | none => exact .after admits_none

theorem verifyServe_gated (body : VerifyRequest) (route : Option SignatureAlgorithm) :
    Admits gate Prod.snd (verifyServe m gate body route) := by
  cases route with
  | some algorithm => exact (providerVerify_gated.mapErr _).returns fun _ => rfl
  | none => exact .after admits_none

theorem serve_gated (plan : Plan) : Admits gate Prod.snd (serve m gate entropy plan) := by
  cases plan with
  | newKey body route => exact (newKeyServe_gated body route).returns fun _ => rfl
  | sign body route => exact (signServe_gated body route).returns fun _ => rfl
  | verify body route => exact (verifyServe_gated body route).returns fun _ => rfl

end Served

end Halves

/-! ### Every run -/

structure Opened (s : State) : Prop where
  current_mem : s.current ∈ s.installed
  pending : ∀ id decisions actor plan,
    s.requests id = some ⟨decisions, .authorized actor plan⟩ →
      ∃ g ∈ s.installed, decisions = [⟨g, actor, plan.body.op, plan.body.keyId⟩] ∧
        g.pdp.allows actor plan.body.op plan.body.keyId = true ∧ g.id ≤ s.current.id

section Runs

variable {σ : Type} {m : Manager σ} {limits : BrokerLimits}

theorem State.put_self (s : State) (id : Nat) (r : Request) : (s.put id r).requests id = some r :=
  Function.update_self ..

variable {id : Nat} {actor : AuthenticatedActor} {plan : Plan}

theorem State.put_other (s : State) {id' : Nat} (r : Request) (h : id' ≠ id) :
    (s.put id r).requests id' = s.requests id' := Function.update_of_ne h ..

theorem State.put_eq_some {s : State} {id' : Nat} {r r' : Request}
    (h : (s.put id r).requests id' = some r') : r = r' ∨ s.requests id' = some r' := by
  by_cases hne : id' = id
  · rw [hne, State.put_self, Option.some.injEq] at h
    exact .inl h
  · rw [State.put_other s r hne] at h
    exact .inr h

theorem step_cases (m : Manager σ) (limits : BrokerLimits) (s : State) (i : Step σ) :
    (∃ catalog policy config, i = .reload catalog policy config) ∨ (step m limits s i).1 = s ∨
    (∃ id ctx body, s.requests id = none ∧
      (step m limits s i).1 = s.put id (beginRequest m limits s.current ctx body)) ∨
    (∃ id store entropy decisions actor plan,
      s.requests id = some ⟨decisions, .authorized actor plan⟩ ∧
      (step m limits s i).1 =
        s.put id (finishRequest m s.current decisions actor plan store entropy)) := by
  cases i with
  | reload catalog policy config => exact .inl ⟨catalog, policy, config, rfl⟩
  | begin id ctx body =>
    cases hid : s.requests id with
    | none => exact .inr (.inr (.inl ⟨id, ctx, body, hid, by simp only [step, hid]⟩))
    | some r => exact .inr (.inl (by simp only [step, hid]))
  | finish id store entropy =>
    rcases hid : s.requests id with _ | ⟨decisions, ⟨actor, plan⟩ | _⟩
    · exact .inr (.inl (by simp only [step, hid]))
    · exact .inr (.inr (.inr ⟨id, store, entropy, decisions, actor, plan, hid,
        by simp only [step, hid]⟩))
    · exact .inr (.inl (by simp only [step, hid]))

theorem beginRequest_pending {g : Generation} {ctx : RequestContext} {body : Body}
    {decisions : List TakenDecision}
    (h : beginRequest m limits g ctx body = ⟨decisions, .authorized actor plan⟩) :
    decisions = [⟨g, actor, plan.body.op, plan.body.keyId⟩] ∧
      g.pdp.allows actor plan.body.op plan.body.keyId = true := by
  unfold beginRequest at h
  rw [Request.mk.injEq] at h
  obtain ⟨hdecisions, hphase⟩ := h
  cases hauth : authorize m limits g ctx body with
  | error status => simp [hauth] at hphase
  | ok accepted =>
    simp only [hauth, Phase.authorized.injEq] at hphase
    obtain ⟨rfl, rfl⟩ := hphase
    obtain ⟨hactor, hbody⟩ := authorize_ok hauth
    rw [hbody, ← hdecisions, operationDecision_of_ok hactor]
    exact ⟨rfl, (authorizeInGeneration_ok.mp hactor).2.2⟩

theorem opened_step (s : State) (i : Step σ) (h : Opened s) : Opened (step m limits s i).1 := by
  rcases step_cases m limits s i with
    ⟨_, _, _, rfl⟩ | hsame | ⟨id, _, _, -, hput⟩ |
    ⟨id, _, _, decisions, actor, plan, -, hput⟩
  · refine ⟨mem_cons_self, ?_⟩
    intro id decisions actor plan hid
    obtain ⟨g, hg, hdecisions, hallows, hle⟩ := h.pending id decisions actor plan hid
    exact ⟨g, mem_cons_of_mem _ hg, hdecisions, hallows, Nat.le_succ_of_le hle⟩
  · rw [hsame]
    exact h
  · rw [hput]
    refine ⟨h.current_mem, ?_⟩
    intro id' decisions' actor' plan' hid'
    rcases State.put_eq_some hid' with hnew | hold
    · obtain ⟨hdecisions, hallows⟩ := beginRequest_pending hnew
      exact ⟨s.current, h.current_mem, hdecisions, hallows, le_rfl⟩
    · exact h.pending id' decisions' actor' plan' hold
  · rw [hput]
    refine ⟨h.current_mem, ?_⟩
    intro id' decisions' actor' plan' hid'
    rcases State.put_eq_some hid' with hnew | hold
    · cases hnew
    · exact h.pending id' decisions' actor' plan' hold

theorem opened_startup (g : Generation) : Opened (startup g) :=
  ⟨mem_singleton_self g, fun _ _ _ _ h => by cases h⟩

structure Settled (s : State) : Prop extends Opened s where
  pinned : ∀ id decisions actor plan,
    s.requests id = some ⟨decisions, .authorized actor plan⟩ → plan.takesGate = true →
      ∀ d ∈ decisions, d.generation = s.current
  coherent : AllCoherent s

theorem Coherent.mono {installed : List Generation} {r : Request} (h : Coherent installed r)
    (g : Generation) : Coherent (g :: installed) r := by
  refine ⟨h.one_generation, ?_⟩
  intro response dispatch hdone
  obtain ⟨g', hg', hgranted⟩ := h.granted response dispatch hdone
  exact ⟨g', mem_cons_of_mem _ hg', hgranted⟩

theorem beginRequest_coherent (installed : List Generation) (g : Generation) (ctx : RequestContext)
    (body : Body) : Coherent installed (beginRequest m limits g ctx body) := by
  refine ⟨⟨g, fun d hd => ?_⟩, ?_⟩
  · change d ∈ operationDecision .. at hd
    unfold operationDecision at hd
    split at hd
    · rw [mem_singleton] at hd
      rw [hd]
    · cases hd
  · intro response dispatch hdone
    unfold beginRequest at hdone
    -- the first half never ends in a success
    cases hauth : authorize m limits g ctx body with
    | error | ok => simp [hauth] at hdone

theorem finishRequest_coherent {installed : List Generation} {g now : Generation}
    (hg : g ∈ installed) (hallows : g.pdp.allows actor plan.body.op plan.body.keyId = true)
    (hgate : plan.takesGate = true → g = now) (store : σ) (entropy : Entropy) :
    Coherent installed (finishRequest m now [⟨g, actor, plan.body.op, plan.body.keyId⟩] actor plan
      store entropy) := by
  have hsame : ∀ d ∈ gateDecision now actor plan,
      d = ⟨g, actor, .useSoftwareCustody, plan.body.keyId⟩ := by
    intro d hd
    unfold gateDecision at hd
    split at hd
    · next htakes =>
      rw [mem_singleton] at hd
      rw [hd, hgate htakes]
    · cases hd
  constructor
  · refine ⟨g, fun d hd => ?_⟩
    rcases mem_append.mp hd with hop | hcustody
    · rw [mem_singleton] at hop
      rw [hop]
    · rw [hsame d hcustody]
  · intro response dispatch hdone
    refine ⟨g, hg, fun d hd hcounts => ?_⟩
    rcases mem_append.mp hd with hop | hcustody
    · rw [mem_singleton] at hop
      rw [hop]
      exact hallows
    · -- the gate decision counts only for a reply of the local software provider
      have hd' := hsame d hcustody
      have htakes : plan.takesGate = true := by
        by_contra hno
        simp [gateDecision, hno] at hcustody
      have hserved : ((serve m (providerGate now actor plan.body.keyId) entropy plan).exec store) =
          (.ok (response, dispatch),
            ((serve m (providerGate now actor plan.body.keyId) entropy plan).exec store).2) :=
        Prod.ext (Phase.done.inj hdone) rfl
      obtain ⟨used, hused, hlocal⟩ := Option.map_eq_some_iff.mp (hcounts (by rw [hd']))
      rw [hd', hgate htakes]
      exact serve_gated plan _ _ _ hserved used hused hlocal

theorem settled_step (s : State) (i : Step σ) (hquiet : Quiet s i) (h : Settled s) :
    Settled (step m limits s i).1 := by
  have hopened : Opened (step m limits s i).1 := opened_step s i h.toOpened
  rcases step_cases m limits s i with
    ⟨_, _, _, rfl⟩ | hsame | ⟨id, _, _, -, hput⟩ |
    ⟨id, store, entropy, decisions, actor, plan, hid, hput⟩
  · refine ⟨hopened, ?_, fun id r hr => (h.coherent id r hr).mono _⟩
    intro id decisions actor plan hid htakes
    rw [hquiet id decisions actor plan hid] at htakes
    cases htakes
  · rw [hsame]
    exact h
  · rw [hput] at hopened ⊢
    refine ⟨hopened, ?_, ?_⟩
    · intro id' decisions' actor' plan' hid' htakes
      rcases State.put_eq_some hid' with hnew | hold
      · obtain ⟨hdecisions, -⟩ := beginRequest_pending hnew
        intro d hd
        rw [hdecisions, mem_singleton] at hd
        rw [hd]
        rfl
      · exact h.pinned id' decisions' actor' plan' hold htakes
    · intro id' r hr
      rcases State.put_eq_some hr with hnew | hold
      · rw [← hnew]
        exact beginRequest_coherent _ _ _ _
      · exact h.coherent id' r hold
  · rw [hput] at hopened ⊢
    refine ⟨hopened, ?_, ?_⟩
    · intro id' decisions' actor' plan' hid' htakes
      rcases State.put_eq_some hid' with hnew | hold
      · cases hnew
      · exact h.pinned id' decisions' actor' plan' hold htakes
    · intro id' r hr
      rcases State.put_eq_some hr with hnew | hold
      · obtain ⟨g, hg, hdecisions, hallows, -⟩ := h.pending id decisions actor plan hid
        have hgate : plan.takesGate = true → g = s.current := by
          intro htakes
          have hpinned := h.pinned id decisions actor plan hid htakes
          rw [hdecisions] at hpinned
          exact hpinned _ (mem_singleton_self _)
        rw [← hnew, hdecisions]
        exact finishRequest_coherent hg hallows hgate store entropy
      · exact h.coherent id' r hold

theorem settled_startup (g : Generation) : Settled (startup g) where
  toOpened := opened_startup g
  pinned := by
    intro id decisions actor plan hid
    cases hid
  coherent := by
    intro id r hr
    cases hr

/-! ### A reload in between -/

/-- The request has taken, or is about to take, decisions in two generations. -/
def Stale (id : Nat) (s : State) : Prop :=
  (∃ d actor plan, s.requests id = some ⟨[d], .authorized actor plan⟩ ∧
    plan.takesGate = true ∧ d.generation.id < s.current.id) ∨
  (∃ r d d' reply, s.requests id = some r ∧ r.phase = .done reply ∧ d ∈ r.decisions ∧
    d' ∈ r.decisions ∧ d.generation.id < d'.generation.id)

theorem stale_step (s : State) (i : Step σ) (h : Stale id s) : Stale id (step m limits s i).1 := by
  rcases step_cases m limits s i with
    ⟨_, _, _, rfl⟩ | hsame | ⟨id', _, _, hfree, hput⟩ |
    ⟨id', store, entropy, _, actor, plan, hid', hput⟩
  · rcases h with ⟨d, actor, plan, hid, htakes, hlt⟩ | hdone
    · exact .inl ⟨d, actor, plan, hid, htakes, Nat.lt_succ_of_lt hlt⟩
    · exact .inr hdone
  · rw [hsame]
    exact h
  · -- a started request never takes the place of another
    have hne : id ≠ id' := by
      intro heq
      rw [← heq] at hfree
      rcases h with ⟨d, actor, plan, hid, -⟩ | ⟨r, d, d', reply, hid, -⟩
      · rw [hid] at hfree
        cases hfree
      · rw [hid] at hfree
        cases hfree
    rw [hput]
    unfold Stale
    rw [State.put_other s _ hne]
    exact h
  · rw [hput]
    by_cases heq : id = id'
    · subst heq
      rcases h with ⟨d, _, _, hid, htakes, hlt⟩ | ⟨r, d, d', reply, hid, hphase, -⟩
      · rw [hid] at hid'
        cases hid'
        refine .inr ⟨_, d, ⟨s.current, actor, .useSoftwareCustody, plan.body.keyId⟩, _,
          State.put_self .., rfl, ?_, ?_, hlt⟩
        · simp [finishRequest]
        · simp [finishRequest, gateDecision, htakes]
      · rw [hid] at hid'
        cases hid'
        cases hphase
    · unfold Stale
      rw [State.put_other s _ heq]
      exact h

theorem stale_finish {s : State} (h : Stale id s) (store : σ) (entropy : Entropy) :
    ¬ AllCoherent (step m limits s (.finish id store entropy)).1 := by
  intro hall
  have hstale : Stale id (step m limits s (.finish id store entropy)).1 := stale_step s _ h
  rcases hstale with ⟨d, _, _, hid, -⟩ | ⟨r, d, d', _, hid, -, hd, hd', hlt⟩
  · -- after its finish the request is no longer pending
    rcases h with ⟨d₀, _, _, hid₀, -⟩ | ⟨r₀, d₀, _, _, hid₀, hphase₀, -⟩
    · simp only [step, hid₀, State.put_self, finishRequest, Option.some.injEq, Request.mk.injEq,
        reduceCtorEq, and_false] at hid
    · obtain ⟨_, phase₀⟩ := r₀
      change phase₀ = _ at hphase₀
      rw [hphase₀] at hid₀
      simp only [step, hid₀, Option.some.injEq, Request.mk.injEq, reduceCtorEq, and_false] at hid
  · obtain ⟨_, hg⟩ := (hall id r hid).one_generation
    rw [hg d hd, hg d' hd'] at hlt
    exact lt_irrefl _ hlt

def Step.isReload : Step σ → Bool
  | .reload .. => true
  | _ => false

theorem decisions_coherent_iff_reloads_quiet [Inhabited σ] (m : Manager σ) (limits : BrokerLimits)
    (g : Generation) (steps : List (Step σ)) :
    (∀ more : List (Step σ), (∀ i ∈ more, i.isReload = false) →
        AllCoherent (final (step m limits) (startup g) (steps ++ more))) ↔
      Along (step m limits) Quiet (startup g) steps := by
  constructor
  · intro hcoherent
    rw [along_iff]
    intro past i rest hsteps
    cases i with
    | begin | finish => trivial
    | reload catalog policy config =>
      intro id decisions actor plan hid
      by_contra htakes
      rw [Bool.not_eq_false] at htakes
      have hopened : Opened (final (step m limits) (startup g) past) :=
        invariant Opened opened_step (opened_startup g) past
      obtain ⟨_, -, hdecisions, -, hle⟩ := hopened.pending id decisions actor plan hid
      rw [hdecisions] at hid
      have hstale : Stale id (step m limits (final (step m limits) (startup g) past)
          (.reload catalog policy config)).1 :=
        .inl ⟨_, actor, plan, hid, htakes, Nat.lt_succ_of_le hle⟩
      have hlast : Stale id (final (step m limits) (step m limits
          (final (step m limits) (startup g) past) (.reload catalog policy config)).1 rest) :=
        invariant (Stale id) stale_step hstale rest
      have hall := hcoherent [.finish id default ⟨.fill _ 0, .fill _ 0⟩] (by simp [Step.isReload])
      rw [hsteps, append_assoc, final_append] at hall
      rw [cons_append, final_cons, final_append] at hall
      exact stale_finish hlast default ⟨.fill _ 0, .fill _ 0⟩ hall
  · intro hquiet more hmore
    rw [final_append]
    have hsettled := invariant_along Settled settled_step (settled_startup g) hquiet
    have hrest : Along (step m limits) Quiet
        (final (step m limits) (startup g) steps) more := by
      rw [along_iff]
      intro past i rest heq
      have hi := hmore i (by rw [heq]; simp)
      cases i with
      | reload => cases hi
      | begin | finish => trivial
    exact (invariant_along Settled settled_step hsettled hrest).coherent

end Runs

/-! ### A signer that never holds both grants

The first generation lets uid 9100 sign but not use software custody; the second lets it
use software custody but not sign. -/

def signerEntry : KeyEntry where
  keyClass := .asymmetric
  keyType := some .mlDsa65
  backend := "bao"
  engine := none
  path := "secret/data/pqc/signer"
  publicPath := none
  writable := true
  missing := .error
  nixCache := none
  generate := none
  sealingPin := none
  labels := ⟨["crypto_provider=local-software", "crypto_provider_policy=local-software",
    "pqc_custody=software-encrypted", "pqc_storage_key=pqc/aead", "crypto_provider_version=1"]⟩
  description := "ml-dsa-65 software-custodied signer"

def signerCatalog : Catalog where
  backends := ⟨[("bao", ⟨.vault, "https://127.0.0.1:8200", [], [], [], []⟩)], by decide⟩
  keys := ⟨[("pqc.signer", signerEntry)], by decide⟩

def signerPolicy (op : Op) (action : String) : ResolvedPolicy where
  subjects := ⟨[("svc.api", ⟨.hostProcess, false, .leaf (.processUid (.numeric 9100))⟩)], by decide⟩
  rules := [⟨["svc.api"], [⟨op, .anyKey, "r1", action⟩]⟩]

def signerConfig : PolicyConfig := ⟨⟨OrdMap.empty, OrdMap.empty⟩, OrdMap.empty⟩

def signOnly : Generation := ⟨1, signerCatalog, signerPolicy .sign "op:sign", signerConfig⟩

def custodyOnly : Generation :=
  ⟨2, signerCatalog, signerPolicy .useSoftwareCustody "op:use_software_custody", signerConfig⟩

def signerRecord : SoftwareCustodyKeyRecord where
  schemaVersion := 1
  keyId := "pqc.signer"
  keyVersion := 1
  publicKey := "BQ=="
  algorithm := "ml-dsa-65"
  provider := "local-software"
  providerVersion := "1"
  custody := "software-encrypted"
  encryptedPrivateKey := ⟨"pqc/aead", "aes-256-gcm", 1, "", "CQ=="⟩

def signerPrimitives : Primitives where
  b64Encode := fun bytes => if bytes = [5] then "BQ==" else if bytes = [9] then "CQ==" else ""
  b64Decode := fun text => if text = "BQ==" then some [5] else if text = "CQ==" then some [9] else some []
  recordToVec := fun _ => some [1]
  recordFromSlice := fun bytes => if bytes = [1] then some signerRecord else none
  mlDsaPublicFromSeed := fun _ seed => some seed
  mlDsaSign := fun _ seed message => some (seed ++ message)
  mlDsaVerify := fun _ publicKey message signature => some (decide (signature = publicKey ++ message))
  mlKemPublicFromSeed := fun _ seed => some seed
  ed25519Sign := fun _ _ => .fill 64 0
  ed25519Verify := fun _ _ _ => false

def signerManager : Manager Unit where
  catalog := signerCatalog
  instances := ["bao"]
  prims := signerPrimitives
  backendOf := fun _ =>
    { newKey := fun _ => .fail (.unsupported "new_key")
      publicKey := fun _ => .fail (.unsupported "public_key")
      sign := fun _ _ => .fail (.unsupported "sign")
      verify := fun _ _ _ => .fail (.unsupported "verify")
      kvGet := fun _ _ => pure ⟨[1], 1⟩
      decrypt := fun _ _ _ => pure [5] }

def signerLimits : BrokerLimits := ⟨1048576, 1048576, 1⟩

def signerContext : RequestContext := ⟨⟨none, some 9100, none⟩, some .host⟩

def signerBody : SignRequest := ⟨"pqc.signer", 0, [42]⟩

def signAcrossReload : List (Step Unit) :=
  [.begin 0 signerContext (.sign signerBody),
    .reload custodyOnly.catalog custodyOnly.policy custodyOnly.config,
    .finish 0 () ⟨.fill _ 0, .fill _ 0⟩]

def signerActor : AuthenticatedActor := ⟨.hostProcess, "svc.api", ⟨none, some 9100, none⟩⟩

def signedAcrossReload : Request where
  decisions := [⟨signOnly, signerActor, .sign, "pqc.signer"⟩,
    ⟨custodyOnly, signerActor, .useSoftwareCustody, "pqc.signer"⟩]
  phase := .done (.ok (.signature [5, 42], some ⟨.localSoftware, "ml-dsa-65", .softwareEncrypted⟩))

theorem sign_granted_by_no_generation :
    let s := final (step signerManager signerLimits) (startup signOnly) signAcrossReload
    (s.requests 0).map Request.phase =
        some (.done (.ok (.signature [5, 42],
          some ⟨.localSoftware, "ml-dsa-65", .softwareEncrypted⟩))) ∧
      (∀ g ∈ s.installed, ¬ (g.pdp.allows signerActor .sign "pqc.signer" = true ∧
        g.pdp.allows signerActor .useSoftwareCustody "pqc.signer" = true)) ∧
      ¬ AllCoherent s := by
  have hauth : authorize signerManager signerLimits signOnly signerContext (.sign signerBody) =
      .ok (signerActor, .sign signerBody (some .mlDsa65)) := by decide
  have hserve : ((serve signerManager (providerGate custodyOnly signerActor "pqc.signer")
      ⟨.fill _ 0, .fill _ 0⟩ (.sign signerBody (some .mlDsa65))).exec ()).1 =
        .ok (.signature [5, 42], some ⟨.localSoftware, "ml-dsa-65", .softwareEncrypted⟩) := by decide
  have hinstalled : ∀ g ∈ [custodyOnly, signOnly],
      ¬ (g.pdp.allows signerActor .sign "pqc.signer" = true ∧
        g.pdp.allows signerActor .useSoftwareCustody "pqc.signer" = true) := by decide
  have hbegin : beginRequest signerManager signerLimits signOnly signerContext (.sign signerBody) =
      ⟨[⟨signOnly, signerActor, .sign, "pqc.signer"⟩],
        .authorized signerActor (.sign signerBody (some .mlDsa65))⟩ := by
    rw [beginRequest, hauth, operationDecision_of_ok (authorize_ok hauth).1]
    rfl
  intro s
  have hrequest : s.requests 0 = some signedAcrossReload := by
    rw [show s = final _ _ (Step.begin 0 signerContext (.sign signerBody) :: _) from rfl, final_cons]
    simp only [step, startup, State.put, hbegin]
    refine (State.put_self ..).trans ?_
    exact congrArg (fun reply => some (Request.mk _ (.done reply))) hserve
  refine ⟨by rw [hrequest]; rfl, hinstalled, ?_⟩
  intro hall
  obtain ⟨g, hg⟩ := (hall 0 _ hrequest).one_generation
  have hfirst : signOnly = g := hg _ mem_cons_self
  have hsecond : custodyOnly = g := hg _ (mem_cons_of_mem _ mem_cons_self)
  have hid : signOnly.id = custodyOnly.id := by rw [hfirst, hsecond]
  exact absurd hid (by decide)

end Basil.Signing
