import Basil.Lib.Table
import Basil.Routing

/-!
# The JWT-SVID deny-list (`core/revocation.rs`, `service/admin.rs`)
-/

namespace Basil.Revocation

structure RevocationKey where
  trustDomain : String
  jti : String
  deriving DecidableEq

abbrev Entries := Table RevocationKey Nat

structure JwtRevocationStore where
  storageKey : Option String
  entries : Entries
  storageKeyPoisoned : Bool
  entriesPoisoned : Bool

def JwtRevocationStore.default : JwtRevocationStore := ⟨none, ∅, false, false⟩

structure StoredRevocation where
  trustDomain : String
  jti : String
  expiresAtUnix : Nat

structure StoredRevocations where
  version : Nat
  entries : List StoredRevocation

inductive StoreError where
  | resolve (error : ResolveError)
  | backend (error : BackendError)
  deriving DecidableEq

def lockPoisoned : StoreError := .backend (.backend "jwt revocation store lock poisoned")

def keyLockPoisoned : StoreError := .backend (.backend "jwt revocation store key lock poisoned")

def pruneExpired (entries : Entries) (now : Nat) : Entries :=
  entries.retain fun _ expiresAt => now < expiresAt

/-! ### Loading -/

def isJwtStore (entry : KeyEntry) : Bool :=
  entry.labels.get "revocation_store" = some "jwt-svid"

/-- `jwt_revocation_store_key`: the one value key labelled as the store. -/
def jwtRevocationStoreKey (catalog : Catalog) : Except StoreError (Option String) :=
  (catalog.keys.entries.filter fun e => isJwtStore e.2).foldlM
    (fun found e => do
      ensure (e.2.keyClass = .value)
        (.backend (.backend ("jwt revocation store `" ++ e.1 ++ "` must be a value key")))
      ensure (found = none) (.backend (.backend "multiple jwt revocation stores configured"))
      return some e.1)
    none

def storedEntries (stored : StoredRevocations) : Except StoreError Entries := do
  ensure (stored.version = 1)
    (.backend (.backend ("unsupported jwt revocation store version " ++ toString stored.version)))
  return (stored.entries.filter fun e => e.trustDomain ≠ "" ∧ e.jti ≠ "").foldl
    (fun m e => m.insert ⟨e.trustDomain, e.jti⟩ e.expiresAtUnix) ∅

abbrev BackingRead := Location → Except BackendError (Except String StoredRevocations)

def loadFromManager (manager : BackendManager) (read : BackingRead) (now : Nat) :
    Except StoreError JwtRevocationStore := do
  match ← jwtRevocationStoreKey manager.catalog with
  | none => return .default
  | some storageKey =>
      let routed ← (manager.resolve storageKey).mapError .resolve
      let entries ← match read routed.location with
        | .ok (.ok stored) => storedEntries stored
        | .ok (.error e) => .error (.backend (.backend ("jwt revocation store parse: " ++ e)))
        | .error (.keyNotFound _) => .ok ∅
        | .error e => .error (.backend e)
      return ⟨some storageKey, pruneExpired entries now, false, false⟩

namespace JwtRevocationStore

/-! ### Operations -/

/-- `is_revoked` prunes, then looks the key up; an unreadable list denies. -/
def isRevoked (store : JwtRevocationStore) (trustDomain jti : String) (now : Nat) :
    JwtRevocationStore × Bool :=
  if store.entriesPoisoned then (store, true)
  else
    let entries := pruneExpired store.entries now
    ({ store with entries := entries }, (entries.lookup ⟨trustDomain, jti⟩).isSome)

def insert (store : JwtRevocationStore) (trustDomain jti : String) (expiresAtUnix now : Nat) :
    JwtRevocationStore × Except StoreError Unit :=
  if now < expiresAtUnix then
    if store.entriesPoisoned then (store, .error lockPoisoned)
    else ({ store with entries := store.entries.insert ⟨trustDomain, jti⟩ expiresAtUnix }, .ok ())
  else (store, .ok ())

def mergeEntry (entries : Entries) (key : RevocationKey) (expiresAt : Nat) : Entries :=
  entries.insert key ((entries.lookup key).elim expiresAt fun current => max current expiresAt)

def mergeEntries (entries : Entries) (loaded : List (RevocationKey × Nat)) : Entries :=
  loaded.foldl (fun m e => mergeEntry m e.1 e.2) entries

def mergeFrom (store loaded : JwtRevocationStore) (now : Nat) :
    JwtRevocationStore × Except StoreError Unit :=
  if store.storageKeyPoisoned then (store, .error keyLockPoisoned)
  else
    let store := { store with storageKey := loaded.storageKey }
    if store.entriesPoisoned then (store, .error lockPoisoned)
    else
      let entries := mergeEntries (pruneExpired store.entries now)
        (Table.toPairs (pruneExpired loaded.entries now))
      ({ store with entries := entries }, .ok ())

def refreshFromManager (store : JwtRevocationStore) (manager : BackendManager) (read : BackingRead)
    (loadNow mergeNow : Nat) : JwtRevocationStore × Except StoreError Unit :=
  match loadFromManager manager read loadNow with
  | .error e => (store, .error e)
  | .ok loaded => store.mergeFrom loaded mergeNow

def persist (store : JwtRevocationStore) (manager : BackendManager)
    (put : Location → Except BackendError Unit) : Except StoreError Unit := do
  ensure (store.storageKeyPoisoned = false) keyLockPoisoned
  match store.storageKey with
  | none => return ()
  | some storageKey =>
      let routed ← (manager.resolve storageKey).mapError .resolve
      ensure (store.entriesPoisoned = false) lockPoisoned
      (put routed.location).mapError .backend

def revokeJwtSvid (store : JwtRevocationStore) (manager : BackendManager)
    (put : Location → Except BackendError Unit) (trustDomain jti : String)
    (expiresAtUnix now : Nat) : JwtRevocationStore × Except StoreError Unit :=
  match store.insert trustDomain jti expiresAtUnix now with
  | (store, .error e) => (store, .error e)
  | (store, .ok ()) => (store, store.persist manager put)

/-! ### Coverage

An entry covers a key up to `bound` when it is denied until at least then. -/

def Covers (store : JwtRevocationStore) (key : RevocationKey) (bound : Nat) : Prop :=
  store.entriesPoisoned = true ∨ ∃ expiresAt, store.entries.lookup key = some expiresAt ∧
    bound ≤ expiresAt

variable {entries : Entries} {key : RevocationKey}

theorem pruneExpired_lookup {now expiresAt : Nat} (hlookup : entries.lookup key = some expiresAt)
    (hlive : now < expiresAt) : (pruneExpired entries now).lookup key = some expiresAt := by
  rw [pruneExpired, Table.lookup_retain, hlookup]
  simp [hlive]

theorem mergeEntry_lookup {bound : Nat} (h : ∃ x, entries.lookup key = some x ∧ bound ≤ x)
    (key' : RevocationKey) (expiresAt : Nat) :
    ∃ x, (mergeEntry entries key' expiresAt).lookup key = some x ∧ bound ≤ x := by
  obtain ⟨x, hx, hbound⟩ := h
  by_cases heq : key = key'
  · subst heq
    refine ⟨max x expiresAt, ?_, le_trans hbound (le_max_left x expiresAt)⟩
    simp [mergeEntry, hx]
  · refine ⟨x, ?_, hbound⟩
    rw [mergeEntry, Table.lookup_insert_eq, if_neg heq, hx]

theorem mergeEntries_lookup {bound : Nat} (loaded : List (RevocationKey × Nat))
    (h : ∃ x, entries.lookup key = some x ∧ bound ≤ x) :
    ∃ x, (mergeEntries entries loaded).lookup key = some x ∧ bound ≤ x := by
  induction loaded generalizing entries with
  | nil => exact h
  | cons e loaded ih => exact ih (mergeEntry_lookup h e.1 e.2)

variable {store : JwtRevocationStore} {key : RevocationKey} {bound now : Nat}

theorem Covers.isRevoked (h : store.Covers key bound) (hnow : now < bound) (trustDomain jti : String) :
    (store.isRevoked trustDomain jti now).1.Covers key bound := by
  unfold JwtRevocationStore.isRevoked
  rcases h with hpoisoned | ⟨x, hx, hbound⟩
  · rw [if_pos hpoisoned]
    exact .inl hpoisoned
  · split
    · exact .inr ⟨x, hx, hbound⟩
    · have hlive : now < x := by omega
      exact .inr ⟨x, pruneExpired_lookup hx hlive, hbound⟩

theorem Covers.denied (h : store.Covers key bound) (hnow : now < bound) :
    (store.isRevoked key.trustDomain key.jti now).2 = true := by
  unfold JwtRevocationStore.isRevoked
  rcases h with hpoisoned | ⟨x, hx, _⟩
  · rw [if_pos hpoisoned]
  · split
    · rfl
    · have hlive : now < x := by omega
      have hkept := pruneExpired_lookup hx hlive
      simp [hkept]

theorem Covers.insert (h : store.Covers key bound) {trustDomain jti : String}
    (hother : (⟨trustDomain, jti⟩ : RevocationKey) ≠ key) (expiresAtUnix now : Nat) :
    (store.insert trustDomain jti expiresAtUnix now).1.Covers key bound := by
  unfold JwtRevocationStore.insert
  split
  · split
    · exact h
    · rcases h with hpoisoned | ⟨x, hx, hbound⟩
      · exact .inl hpoisoned
      · refine .inr ⟨x, ?_, hbound⟩
        rw [Table.lookup_insert_eq, if_neg (Ne.symm hother), hx]
  · exact h

theorem Covers.mergeFrom (h : store.Covers key bound) (hnow : now < bound)
    (loaded : JwtRevocationStore) : (store.mergeFrom loaded now).1.Covers key bound := by
  unfold JwtRevocationStore.mergeFrom
  rcases h with hpoisoned | ⟨x, hx, hbound⟩
  · split
    · exact .inl hpoisoned
    · simp only [hpoisoned, if_true]
      exact .inl rfl
  · split
    · exact .inr ⟨x, hx, hbound⟩
    · dsimp only
      split
      · exact .inr ⟨x, hx, hbound⟩
      · have hlive : now < x := by omega
        have hkept := pruneExpired_lookup hx hlive
        exact .inr (mergeEntries_lookup _ ⟨x, hkept, hbound⟩)

theorem Covers.refreshFromManager (h : store.Covers key bound) {mergeNow : Nat}
    (hnow : mergeNow < bound) (manager : BackendManager) (read : BackingRead) (loadNow : Nat) :
    (store.refreshFromManager manager read loadNow mergeNow).1.Covers key bound := by
  unfold JwtRevocationStore.refreshFromManager
  split
  · exact h
  · exact h.mergeFrom hnow _

theorem revokeJwtSvid_covers {manager : BackendManager} {put : Location → Except BackendError Unit}
    {trustDomain jti : String} {expiresAtUnix : Nat} (hnow : now < expiresAtUnix)
    (hok : (store.revokeJwtSvid manager put trustDomain jti expiresAtUnix now).2 = .ok ()) :
    (store.revokeJwtSvid manager put trustDomain jti expiresAtUnix now).1.Covers
      ⟨trustDomain, jti⟩ expiresAtUnix := by
  unfold revokeJwtSvid JwtRevocationStore.insert at hok ⊢
  rw [if_pos hnow] at hok ⊢
  cases hpoisoned : store.entriesPoisoned with
  | true => simp [hpoisoned] at hok
  | false =>
    exact .inr ⟨expiresAtUnix, by simp, le_refl expiresAtUnix⟩

end JwtRevocationStore

end Basil.Revocation
