import Basil.Request

/-!
# Key routing and error statuses (`core/manager.rs`, `service/shared.rs`)

The manager routes a dotted key name through the catalog it was built with at startup; a reload
swaps the generation but not this catalog.
-/

namespace Basil

inductive BackendError where
  | unsupportedKeyType (keyType : String)
  | keyNotFound (id : String)
  | unsupported (op : String)
  | decryptFailed
  | unsupportedAlgorithm (algorithm : String)
  | transport (detail : String)
  | backend (detail : String)
  | protocol (detail : String)
  deriving DecidableEq

def BackendError.display : BackendError → String
  | unsupportedKeyType keyType => "unsupported key type: " ++ keyType
  | keyNotFound id => "key not found: " ++ id
  | unsupported op => "operation not supported by this backend: " ++ op
  | decryptFailed => "decrypt failed"
  | unsupportedAlgorithm algorithm => "unsupported AEAD algorithm: " ++ algorithm
  | transport detail => "backend transport error: " ++ detail
  | backend detail => "backend error: " ++ detail
  | protocol detail => "malformed backend response: " ++ detail

def decryptFailedStatus (op : String) : Status :=
  ⟨.invalidArgument, "DECRYPT_FAILED", op, "decrypt failed"⟩

def backendStatus (op : String) (err : BackendError) : Status :=
  match err with
  | .unsupportedKeyType _ | .unsupportedAlgorithm _ => unsupportedAlgorithm op err.display
  | .unsupported _ => unsupported op err.display
  | .keyNotFound _ => internalStatus op err.display
  | .decryptFailed => decryptFailedStatus op
  | .transport _ => ⟨.unavailable, "BACKEND_UNAVAILABLE", op, "backend unavailable"⟩
  | .backend _ | .protocol _ => ⟨.internal, "BACKEND_ERROR", op, "backend operation failed"⟩

structure Location where
  backend : String
  path : String
  deriving DecidableEq

structure Routed where
  entry : KeyEntry
  backendRef : BackendRef
  engine : Engine

def Routed.location (routed : Routed) : Location := ⟨routed.entry.backend, routed.entry.path⟩

inductive ResolveError where
  | unknownKey (key : String)
  | unknownBackend (key backend : String)
  deriving DecidableEq

def ResolveError.display : ResolveError → String
  | unknownKey key => "unknown key: " ++ key
  | unknownBackend key backend => "key `" ++ key ++ "` references unknown backend `" ++ backend ++ "`"

structure BackendManager where
  catalog : Catalog
  instances : List String

namespace BackendManager

def resolve (manager : BackendManager) (keyId : String) : Except ResolveError Routed := do
  let entry ← orErr (manager.catalog.keys.get? keyId) (.unknownKey keyId)
  let backendRef ← orErr (manager.catalog.backends.get? entry.backend)
    (.unknownBackend keyId entry.backend)
  ensure (entry.backend ∈ manager.instances) (.unknownBackend keyId entry.backend)
  return ⟨entry, backendRef, entry.effectiveEngine⟩

theorem resolve_ok {manager : BackendManager} {keyId : String} {routed : Routed}
    (h : manager.resolve keyId = .ok routed) :
    manager.catalog.keys.get? keyId = some routed.entry ∧
      routed.engine = routed.entry.effectiveEngine := by
  simp only [resolve, eq_ok] at h
  obtain ⟨entry, hentry, _, -, -, -, rfl⟩ := h
  exact ⟨hentry, rfl⟩

theorem resolve_of_ref {manager : BackendManager} {keyId : String} {entry : KeyEntry}
    {ref : BackendRef} (hentry : manager.catalog.keys.get? keyId = some entry)
    (href : manager.catalog.backends.get? entry.backend = some ref) :
    manager.resolve keyId =
      if entry.backend ∈ manager.instances then .ok ⟨entry, ref, entry.effectiveEngine⟩
      else .error (.unknownBackend keyId entry.backend) := by
  simp only [resolve, hentry, href, orErr, ok_bind]
  by_cases hbuilt : entry.backend ∈ manager.instances
  · rw [ensure_pos hbuilt, if_pos hbuilt]
    rfl
  · rw [ensure_neg hbuilt, if_neg hbuilt]
    rfl

end BackendManager

end Basil
