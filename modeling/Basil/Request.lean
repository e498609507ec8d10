import Basil.Pdp

/-!
# Statuses, generations and request authorization (`transport/mod.rs`, `core/state.rs`)
-/

namespace Basil

inductive Code where
  | invalidArgument
  | failedPrecondition
  | resourceExhausted
  | unimplemented
  | permissionDenied
  | unauthenticated
  | unavailable
  | internal
  deriving DecidableEq

structure Status where
  code : Code
  reason : String
  op : String
  message : String
  deriving DecidableEq

def workloadStatus (code : Code) (message : String) : Status := ⟨code, "", "", message⟩

def invalidRequest (op message : String) : Status :=
  ⟨.invalidArgument, "INVALID_REQUEST", op, message⟩

def payloadTooLarge (op message : String) : Status :=
  ⟨.resourceExhausted, "PAYLOAD_TOO_LARGE", op, message⟩

def unsupported (op message : String) : Status := ⟨.unimplemented, "UNSUPPORTED", op, message⟩

def unsupportedAlgorithm (op message : String) : Status :=
  ⟨.unimplemented, "UNSUPPORTED_ALGORITHM", op, message⟩

def unauthorized (op : String) : Status :=
  ⟨.permissionDenied, "UNAUTHORIZED", op, "not authorized"⟩

def internalStatus (op message : String) : Status := ⟨.internal, "INTERNAL", op, message⟩

/-! ### Generations -/

structure Generation where
  id : Nat
  catalog : Catalog
  policy : ResolvedPolicy
  config : PolicyConfig

def Generation.pdp (g : Generation) : Pdp := ⟨g.catalog, g.policy, g.config⟩

/-! ### Request context -/

inductive ListenerType where
  | host
  | courier
  deriving DecidableEq

structure RequestContext where
  peer : PeerInfo
  listener : Option ListenerType
  deriving DecidableEq

def resolutionStatus (op : Op) : SubjectResolutionError → Status
  | .missingPeerCredentials =>
      ⟨.unauthenticated, "UNAUTHENTICATED", op.token, "missing peer credentials"⟩
  | .resolution _ => unauthorized op.token

def enforceListenerDomain (ctx : RequestContext) (op : Op) : Except Status Unit :=
  match ctx.listener with
  | none =>
      .error ⟨.unavailable, "LISTENER_CONTEXT_UNAVAILABLE", op.token, "listener context unavailable"⟩
  | some .host => .ok ()
  | some .courier =>
      .error ⟨.permissionDenied, "LISTENER_DOMAIN_MISMATCH", op.token,
        "listener does not admit resolved workload domain"⟩

def authorizeInGeneration (g : Generation) (ctx : RequestContext) (op : Op) (key : String) :
    Except Status AuthenticatedActor := do
  let actor ← (g.pdp.resolveLocalActor ctx.peer).mapError (resolutionStatus op)
  enforceListenerDomain ctx op
  ensure (g.pdp.allows actor op key = true) (unauthorized op.token)
  return actor

def requireUnixUid (actor : AuthenticatedActor) (op : String) : Except Status Nat :=
  orErr actor.unixUid
    ⟨.unauthenticated, "UNAUTHENTICATED", op, "operation requires local peer credentials"⟩

theorem authorizeInGeneration_ok {g : Generation} {ctx : RequestContext} {op : Op} {key : String}
    {actor : AuthenticatedActor} :
    authorizeInGeneration g ctx op key = .ok actor ↔
      g.pdp.resolveLocalActor ctx.peer = .ok actor ∧ ctx.listener = some .host ∧
        g.pdp.allows actor op key = true := by
  unfold authorizeInGeneration
  cases hactor : g.pdp.resolveLocalActor ctx.peer with
  | error e => simp [Except.mapError]
  | ok a =>
    rcases hlistener : ctx.listener with _ | _ | _
    · simp [Except.mapError, enforceListenerDomain, hlistener]
    · simp only [Except.mapError, enforceListenerDomain, hlistener, ok_bind, eq_ok, Except.ok.injEq]
      constructor
      · rintro ⟨-, hallow, rfl⟩
        exact ⟨rfl, by trivial, hallow⟩
      · rintro ⟨rfl, -, hallow⟩
        exact ⟨(), hallow, rfl⟩
    · simp [Except.mapError, enforceListenerDomain, hlistener]

end Basil
