import Basil.RevocationRun

/-!
# How long a revocation lasts

In memory, over runs of the deny-list: a live entry is kept by every call except an insert that
names an earlier expiry for it. In the stored document, over interleaved revocations: each call
inserts, takes a snapshot and writes it, and the write that lands last decides.
-/

namespace Basil.Svid

open Jwt Revocation Evidence List Trace

variable {codec : JwsCodec} {store : JwtRevocationStore} {call : Call codec}

/-! ### In memory -/

def Shortens (store : JwtRevocationStore) : Call codec → Prop
  | .insert trustDomain jti expiresAtUnix now =>
      store.entriesPoisoned = false ∧ now < expiresAtUnix ∧
        ∃ current, store.entries.lookup ⟨trustDomain, jti⟩ = some current ∧ expiresAtUnix < current
  | _ => False

/-- The call keeps every entry that is live at its readings. -/
def Extends (store : JwtRevocationStore) (call : Call codec) : Prop :=
  ∀ key expiresAt, store.entries.lookup key = some expiresAt → (∀ r ∈ call.readings, r < expiresAt) →
    ∃ later, (step store call).1.entries.lookup key = some later ∧ expiresAt ≤ later

def StaysRevoked (store : JwtRevocationStore) (calls : List (Call codec)) : Prop :=
  ∀ past mid rest trustDomain jti expiresAtUnix inserted now,
    calls = past ++ .insert trustDomain jti expiresAtUnix inserted ::
      (mid ++ .isRevoked trustDomain jti now :: rest) →
    (step (Trace.final step store past)
      (.insert trustDomain jti expiresAtUnix inserted : Call codec)).2 = .updated (.ok ()) →
    now < expiresAtUnix →
    (step (Trace.final step store (past ++ .insert trustDomain jti expiresAtUnix inserted :: mid))
      (.isRevoked trustDomain jti now : Call codec)).2 = .revoked true

theorem isRevoked_poisoned (store : JwtRevocationStore) (trustDomain jti : String) (now : Nat) :
    (store.isRevoked trustDomain jti now).1.entriesPoisoned = store.entriesPoisoned ∧
      (store.entriesPoisoned = true →
        (store.isRevoked trustDomain jti now).1.entries = store.entries) := by
  unfold JwtRevocationStore.isRevoked
  split <;> simp_all

theorem step_poisoned (store : JwtRevocationStore) (call : Call codec) :
    (step store call).1.entriesPoisoned = store.entriesPoisoned ∧
      (store.entriesPoisoned = true → (step store call).1.entries = store.entries) := by
  cases call with
  | isRevoked trustDomain jti now => exact isRevoked_poisoned store trustDomain jti now
  | insert =>
    simp only [step, JwtRevocationStore.insert]
    split
    · split <;> simp_all
    · exact ⟨rfl, fun _ => rfl⟩
  | refresh =>
    simp only [step, JwtRevocationStore.refreshFromManager]
    split
    · exact ⟨rfl, fun _ => rfl⟩
    · simp only [JwtRevocationStore.mergeFrom]
      split
      · exact ⟨rfl, fun _ => rfl⟩
      · split <;> simp_all
  | validate manager g env req decodeNow denyNow =>
    rcases validateJwtsvid_store manager g env store req decodeNow denyNow with hs | ⟨td, jti, hs⟩
    · simp [step, hs]
    · simp only [step, hs]
      exact isRevoked_poisoned store td jti denyNow

variable {key : RevocationKey}

theorem insert_covers {trustDomain jti : String} {expiresAt expiresAtUnix now : Nat}
    (hlookup : store.entries.lookup key = some expiresAt)
    (hkept : ¬ Shortens store (.insert trustDomain jti expiresAtUnix now : Call codec)) :
    (store.insert trustDomain jti expiresAtUnix now).1.Covers key expiresAt := by
  by_cases hkey : (⟨trustDomain, jti⟩ : RevocationKey) = key
  · subst hkey
    unfold JwtRevocationStore.insert
    split
    · next hlive =>
      split
      · next hpoisoned => exact .inl hpoisoned
      · next hreadable =>
        have hle : expiresAt ≤ expiresAtUnix := by
          by_contra hlt
          exact hkept ⟨by simpa using hreadable, hlive, expiresAt, hlookup, by omega⟩
        exact .inr ⟨expiresAtUnix, by simp, hle⟩
    · exact .inr ⟨expiresAt, hlookup, le_refl _⟩
  · have hcovers : store.Covers key expiresAt := .inr ⟨expiresAt, hlookup, le_refl _⟩
    exact hcovers.insert hkey expiresAtUnix now

theorem extends_iff : Extends store call ↔ ¬ Shortens store call := by
  constructor
  · intro hextends hshortens
    cases call with
    | insert trustDomain jti expiresAtUnix now =>
      obtain ⟨hreadable, hlive, current, hlookup, _⟩ := hshortens
      have hreadings : ∀ r ∈ (.insert trustDomain jti expiresAtUnix now : Call codec).readings,
          r < current := by
        intro r hr
        have hr' : r = now := by simpa [Call.readings] using hr
        omega
      obtain ⟨_, hlater, _⟩ := hextends _ current hlookup hreadings
      have hnew : (step store (.insert trustDomain jti expiresAtUnix now : Call codec)).1.entries.lookup
          ⟨trustDomain, jti⟩ = some expiresAtUnix := by
        simp [step, JwtRevocationStore.insert, hlive, hreadable]
      rw [hnew, Option.some.injEq] at hlater
      omega
    | _ => exact hshortens
  · intro hkept key expiresAt hlookup hreadings
    cases hpoisoned : store.entriesPoisoned with
    | true =>
      rw [(step_poisoned store call).2 hpoisoned]
      exact ⟨expiresAt, hlookup, le_refl _⟩
    | false =>
      have hcovers : store.Covers key expiresAt := .inr ⟨expiresAt, hlookup, le_refl _⟩
      have hstep : (step store call).1.Covers key expiresAt := by
        cases call with
        | insert => exact insert_covers hlookup hkept
        | _ => exact covers_call hcovers trivial hreadings
      rcases hstep with hno | hfound
      · rw [(step_poisoned store call).1, hpoisoned] at hno
        cases hno
      · exact hfound

theorem covers_step {bound : Nat} (h : store.Covers key bound)
    (hreadings : ∀ r ∈ call.readings, r < bound) (hkept : ¬ Shortens store call) :
    (step store call).1.Covers key bound := by
  rcases h with hpoisoned | ⟨expiresAt, hlookup, hbound⟩
  · exact .inl ((step_poisoned store call).1.trans hpoisoned)
  · have hlive : ∀ r ∈ call.readings, r < expiresAt := fun r hr => by
      have hr' := hreadings r hr
      omega
    obtain ⟨later, hlater, hle⟩ := extends_iff.mpr hkept key expiresAt hlookup hlive
    exact .inr ⟨later, hlater, le_trans hbound hle⟩

theorem covers_run {bound : Nat} {calls : List (Call codec)} (h : store.Covers key bound)
    (hreadings : ∀ r ∈ calls.flatMap Call.readings, r < bound)
    (hkept : Trace.Along step (fun s c => ¬ Shortens s c) store calls) :
    (final step store calls).Covers key bound := by
  induction calls generalizing store with
  | nil => exact h
  | cons c calls ih =>
    obtain ⟨hfirst, hrest⟩ := hkept
    simp only [flatMap_cons, mem_append] at hreadings
    have hnext := covers_step h (fun r hr => hreadings r (.inl hr)) hfirst
    exact ih hnext (fun r hr => hreadings r (.inr hr)) hrest

theorem insert_live_covers {trustDomain jti : String} {expiresAtUnix now : Nat}
    (hlive : now < expiresAtUnix) :
    (step store (.insert trustDomain jti expiresAtUnix now : Call codec)).1.Covers ⟨trustDomain, jti⟩
      expiresAtUnix := by
  simp only [step, JwtRevocationStore.insert, if_pos hlive]
  split
  · next hpoisoned => exact .inl hpoisoned
  · exact .inr ⟨expiresAtUnix, by simp, le_refl _⟩

theorem revocations_last_iff (store : JwtRevocationStore) (calls : List (Call codec))
    (hclock : (calls.flatMap Call.readings).Pairwise (· ≤ ·)) :
    (Trace.Along step Extends store calls ∧ StaysRevoked store calls) ↔
      Trace.Along step (fun s c => ¬ Shortens s c) store calls := by
  have hsame : (Extends : JwtRevocationStore → Call codec → Prop) = fun s c => ¬ Shortens s c :=
    funext₂ fun _ _ => propext extends_iff
  rw [hsame]
  refine ⟨And.left, fun hkept => ⟨hkept, ?_⟩⟩
  intro past mid rest trustDomain jti expiresAtUnix inserted now hcalls _ hnow
  subst hcalls
  obtain ⟨-, hfrom⟩ := along_append.mp hkept
  obtain ⟨hmid, -⟩ := along_append.mp hfrom.2
  simp only [flatMap_append, flatMap_cons, Call.readings, singleton_append] at hclock
  have hsuffix := (pairwise_append.mp hclock).2.1
  rw [pairwise_cons] at hsuffix
  obtain ⟨hafter, hsorted⟩ := hsuffix
  have hlive : inserted < expiresAtUnix := lt_of_le_of_lt (hafter now (by simp)) hnow
  have hreadings : ∀ r ∈ mid.flatMap Call.readings, r < expiresAtUnix := by
    intro r hr
    exact lt_of_le_of_lt ((pairwise_append.mp hsorted).2.2 r hr now (by simp)) hnow
  have hcovers := covers_run (insert_live_covers hlive) hreadings hmid
  rw [final_append, final_cons]
  exact congrArg Reply.revoked (hcovers.denied hnow)

theorem extended_revocation_lasts :
    let calls : List (Call Code.codec) :=
      [.insert "example.org" "jti-1" 1300 1000, .insert "example.org" "jti-1" 1500 1100,
        .isRevoked "example.org" "jti-1" 1400]
    Trace.Along step Extends .default calls ∧ StaysRevoked .default calls := by
  refine (revocations_last_iff _ _ (by decide)).mpr ⟨?_, ?_, ?_, trivial⟩
  · rintro ⟨-, -, current, hlookup, -⟩
    cases hlookup
  · rintro ⟨-, -, current, hlookup, _⟩
    obtain rfl : 1300 = current := Option.some.inj hlookup
    omega
  · exact id

theorem reinsertion_ends_revocation :
    let calls : List (Call Code.codec) :=
      [.insert "example.org" "jti-1" 1300 1000, .insert "example.org" "jti-1" 1100 1001,
        .isRevoked "example.org" "jti-1" 1200]
    (calls.flatMap Call.readings).Pairwise (· ≤ ·) ∧ ¬ StaysRevoked .default calls := by
  refine ⟨by decide, fun h => ?_⟩
  have hdenied := h [] [.insert "example.org" "jti-1" 1100 1001] [] "example.org" "jti-1" 1300 1000 1200
    rfl rfl (by omega)
  have hanswer : Reply.revoked false = .revoked true := hdenied
  cases hanswer

end Basil.Svid

namespace Basil.Revocation

/-! ### In the stored document -/

def JwtRevocationStore.snapshotJson (store : JwtRevocationStore) : Except StoreError StoredRevocations := do
  ensure (store.entriesPoisoned = false) lockPoisoned
  return ⟨1, (Table.toPairs store.entries).map fun e => ⟨e.1.trustDomain, e.1.jti, e.2⟩⟩

structure RevokeRequest where
  key : RevocationKey
  expiresAtUnix : Nat
  present : key.trustDomain ≠ "" ∧ key.jti ≠ ""

inductive RevokePhase where
  | waiting
  | inserted
  | snapped (document : StoredRevocations)
  | acknowledged
  | failed (error : StoreError)

structure RevokeState (ι : Type) where
  store : JwtRevocationStore
  document : Option StoredRevocations
  phase : ι → RevokePhase

/-- The parts of the calls; nothing holds a lock from one part to the next. -/
inductive RevokeAction (ι : Type) where
  | insert (i : ι) (now : Nat)
  | snapshot (i : ι)
  | land (i : ι)

section Interleaving

variable {ι : Type} [DecidableEq ι] (manager : BackendManager) (requests : ι → RevokeRequest)

def RevokeState.enter (s : RevokeState ι) (i : ι) (p : RevokePhase) : RevokeState ι :=
  { s with phase := Function.update s.phase i p }

def persistSnapshot (store : JwtRevocationStore) : RevokePhase :=
  if store.storageKeyPoisoned then .failed keyLockPoisoned
  else match store.storageKey with
    | none => .acknowledged
    | some storageKey =>
        match manager.resolve storageKey with
        | .error e => .failed (.resolve e)
        | .ok _ =>
            match store.snapshotJson with
            | .error e => .failed e
            | .ok document => .snapped document

def revokeStep (s : RevokeState ι) : RevokeAction ι → RevokeState ι × Unit
  | .insert i now =>
      match s.store.insert (requests i).key.trustDomain (requests i).key.jti
          (requests i).expiresAtUnix now with
      | (store, .ok ()) => ({ s with store }.enter i .inserted, ())
      | (store, .error e) => ({ s with store }.enter i (.failed e), ())
  | .snapshot i => (s.enter i (persistSnapshot manager s.store), ())
  | .land i =>
      match s.phase i with
      | .snapped document => ({ s with document := some document }.enter i .acknowledged, ())
      | _ => (s, ())

def RevokeEnabled (s : RevokeState ι) : RevokeAction ι → Prop
  | .insert i _ => s.phase i = .waiting
  | .snapshot i => s.phase i = .inserted
  | .land i => ∃ document, s.phase i = .snapped document

/-- A restart from the document denies every acknowledged id that has not expired. -/
def Durable (clock : Nat) (s : RevokeState ι) : Prop :=
  ∀ i, s.phase i = .acknowledged → clock < (requests i).expiresAtUnix →
    ∃ document entries expiresAt, s.document = some document ∧ storedEntries document = .ok entries ∧
      entries.lookup (requests i).key = some expiresAt ∧ (requests i).expiresAtUnix ≤ expiresAt

omit [DecidableEq ι] in
theorem storedEntries_snapshotJson {store : JwtRevocationStore} {document : StoredRevocations}
    (h : store.snapshotJson = .ok document) :
    ∃ entries, storedEntries document = .ok entries ∧
      ∀ request : RevokeRequest, ∀ expiresAt, entries.lookup request.key = some expiresAt ↔
        store.entries.lookup request.key = some expiresAt := by
  simp only [JwtRevocationStore.snapshotJson, eq_ok] at h
  obtain ⟨_, -, rfl⟩ := h
  refine ⟨_, rfl, fun request expiresAt => ?_⟩
  have hfold : ∀ (stored : List StoredRevocation) (m : Entries),
      stored.foldl (fun m e => m.insert ⟨e.trustDomain, e.jti⟩ e.expiresAtUnix) m =
        (stored.map fun e => ((⟨e.trustDomain, e.jti⟩ : RevocationKey), e.expiresAtUnix)).foldl
          (fun m e => m.insert e.1 e.2) m := by
    intro stored m
    rw [List.foldl_map]
  have hpairs : (((Table.toPairs store.entries).map fun e =>
      (⟨e.1.trustDomain, e.1.jti, e.2⟩ : StoredRevocation)).filter
        fun e => decide (e.trustDomain ≠ "" ∧ e.jti ≠ "")).map
        (fun e => ((⟨e.trustDomain, e.jti⟩ : RevocationKey), e.expiresAtUnix)) =
      (Table.toPairs store.entries).filter fun e => decide (e.1.trustDomain ≠ "" ∧ e.1.jti ≠ "") := by
    rw [List.filter_map, List.map_map]
    exact List.map_id _
  have hnodup : (((Table.toPairs store.entries).filter
      fun e => decide (e.1.trustDomain ≠ "" ∧ e.1.jti ≠ "")).map Prod.fst).Nodup :=
    (Table.nodup_toPairs store.entries).sublist (List.filter_sublist.map Prod.fst)
  rw [hfold, hpairs, Table.lookup_foldl_insert hnodup]
  simp [List.mem_filter, Table.mem_toPairs, request.present]

def RevokeAction.call : RevokeAction ι → ι
  | .insert i _ => i
  | .snapshot i => i
  | .land i => i

variable {manager requests} {s : RevokeState ι} {i : ι}

variable {a : RevokeAction ι}

theorem phase_of_other (h : a.call ≠ i) :
    (revokeStep manager requests s a).1.phase i = s.phase i := by
  cases a with
  | insert =>
    simp only [revokeStep]
    split <;> exact Function.update_of_ne (Ne.symm h) _ _
  | snapshot => exact Function.update_of_ne (Ne.symm h) _ _
  | land =>
    simp only [revokeStep]
    split
    · exact Function.update_of_ne (Ne.symm h) _ _
    · rfl

theorem document_of_no_land (h : ∀ j, a ≠ .land j) :
    (revokeStep manager requests s a).1.document = s.document := by
  cases a with
  | insert =>
    simp only [revokeStep]
    split <;> rfl
  | snapshot => rfl
  | land j => exact absurd rfl (h j)

theorem document_of_no_lands {actions : List (RevokeAction ι)} (h : ∀ j, .land j ∉ actions) :
    (Trace.final (revokeStep manager requests) s actions).document = s.document := by
  induction actions generalizing s with
  | nil => rfl
  | cons a actions ih =>
    have hfirst : (revokeStep manager requests s a).1.document = s.document :=
      document_of_no_land fun j heq => h j (heq ▸ List.mem_cons_self)
    rw [Trace.final_cons, ih fun j hj => h j (List.mem_cons_of_mem _ hj), hfirst]

omit [DecidableEq ι] in
theorem persistSnapshot_cases (manager : BackendManager) (store : JwtRevocationStore) :
    persistSnapshot manager store ≠ .waiting ∧ persistSnapshot manager store ≠ .inserted ∧
      ∀ document, persistSnapshot manager store = .snapped document →
        store.snapshotJson = .ok document := by
  unfold persistSnapshot
  split
  · simp
  · split
    · simp
    · split
      · simp
      · split
        · simp
        · next document h => simpa using h

theorem phase_after_snapshot {store : JwtRevocationStore} (henabled : RevokeEnabled s a)
    (h : s.phase i = persistSnapshot manager store ∨ s.phase i = .acknowledged) :
    (revokeStep manager requests s a).1.phase i = persistSnapshot manager store ∨
      (revokeStep manager requests s a).1.phase i = .acknowledged := by
  obtain ⟨hwaiting, hinserted, -⟩ := persistSnapshot_cases manager store
  by_cases hcall : a.call = i
  · subst hcall
    cases a with
    | insert =>
      rcases h with h | h
      · exact absurd (h.symm.trans henabled) hwaiting
      · cases h.symm.trans henabled
    | snapshot =>
      rcases h with h | h
      · exact absurd (h.symm.trans henabled) hinserted
      · cases h.symm.trans henabled
    | land =>
      obtain ⟨_, hsnapped⟩ := henabled
      right
      simp only [revokeStep, RevokeAction.call, hsnapped]
      exact Function.update_self _ _ _
  · rw [phase_of_other hcall]
    exact h

theorem document_of_last_land {past mid rest : List (RevokeAction ι)}
    (hrun : Trace.Along (revokeStep manager requests) RevokeEnabled s
      (past ++ .snapshot i :: (mid ++ .land i :: rest))) (hlast : ∀ j, .land j ∉ rest) :
    ∃ document,
      (Trace.final (revokeStep manager requests) s past).store.snapshotJson = .ok document ∧
      (Trace.final (revokeStep manager requests) s
        (past ++ .snapshot i :: (mid ++ .land i :: rest))).document = some document := by
  obtain ⟨-, -, hafter⟩ := Trace.along_append.mp hrun
  obtain ⟨hmid, hland, -⟩ := Trace.along_append.mp hafter
  let before := Trace.final (revokeStep manager requests) s past
  have hentered : (revokeStep manager requests before (.snapshot i)).1.phase i =
      persistSnapshot manager before.store := Function.update_self _ _ _
  have hphase := Trace.invariant_along
    (fun t => t.phase i = persistSnapshot manager before.store ∨ t.phase i = .acknowledged)
    (fun t a henabled => phase_after_snapshot henabled) (.inl hentered) hmid
  obtain ⟨document, hsnapped⟩ := hland
  have hdocument : persistSnapshot manager before.store = .snapped document := by
    rcases hphase with h | h
    · exact h.symm.trans hsnapped
    · cases h.symm.trans hsnapped
  refine ⟨document, (persistSnapshot_cases manager before.store).2.2 document hdocument, ?_⟩
  rw [Trace.final_append, Trace.final_cons, Trace.final_append, Trace.final_cons,
    document_of_no_lands hlast]
  simp only [revokeStep] at hsnapped ⊢
  rw [hsnapped]
  rfl

theorem document_durable_iff (manager : BackendManager) (requests : ι → RevokeRequest)
    {past mid rest : List (RevokeAction ι)}
    (hrun : Trace.Along (revokeStep manager requests) RevokeEnabled s
      (past ++ .snapshot i :: (mid ++ .land i :: rest))) (hlast : ∀ j, .land j ∉ rest)
    (clock : Nat) :
    Durable requests clock (Trace.final (revokeStep manager requests) s
        (past ++ .snapshot i :: (mid ++ .land i :: rest))) ↔
      ∀ j, (Trace.final (revokeStep manager requests) s
          (past ++ .snapshot i :: (mid ++ .land i :: rest))).phase j = .acknowledged →
        clock < (requests j).expiresAtUnix →
        (Trace.final (revokeStep manager requests) s past).store.Covers (requests j).key
          (requests j).expiresAtUnix := by
  obtain ⟨document, hsnapshot, hdocument⟩ := document_of_last_land hrun hlast
  obtain ⟨entries, hentries, hlookup⟩ := storedEntries_snapshotJson hsnapshot
  have hreadable : (Trace.final (revokeStep manager requests) s past).store.entriesPoisoned = false := by
    simp only [JwtRevocationStore.snapshotJson, eq_ok] at hsnapshot
    obtain ⟨_, hno, -⟩ := hsnapshot
    exact hno
  constructor
  · intro hdurable j hacknowledged hclock
    obtain ⟨document', entries', expiresAt, hdocument', hentries', hfound, hle⟩ :=
      hdurable j hacknowledged hclock
    obtain rfl : document = document' := Option.some.inj (hdocument.symm.trans hdocument')
    obtain rfl : entries = entries' := Except.ok.inj (hentries.symm.trans hentries')
    exact .inr ⟨expiresAt, (hlookup (requests j) expiresAt).mp hfound, hle⟩
  · intro hcovers j hacknowledged hclock
    rcases hcovers j hacknowledged hclock with hpoisoned | ⟨expiresAt, hfound, hle⟩
    · rw [hreadable] at hpoisoned
      cases hpoisoned
    · exact ⟨document, entries, expiresAt, hdocument, hentries,
        (hlookup (requests j) expiresAt).mpr hfound, hle⟩

end Interleaving

/-! ### Two revocations at once -/

def storeEntry : KeyEntry where
  keyClass := .value
  keyType := none
  backend := "vault"
  engine := some .kv2
  path := "revocations/jwt"
  publicPath := none
  writable := true
  missing := .warn
  nixCache := none
  generate := none
  sealingPin := none
  labels := ⟨["revocation_store=jwt-svid"]⟩
  description := "JWT-SVID revocation store"

def storeManager : BackendManager where
  catalog :=
    { backends := ⟨[("vault", ⟨.vault, "", [.kv2], [], [], []⟩)], by decide⟩
      keys := ⟨[("revocations.jwt", storeEntry)], by decide⟩ }
  instances := ["vault"]

def twoRequests (second : Bool) : RevokeRequest where
  key := ⟨"example.org", if second then "jti-2" else "jti-1"⟩
  expiresAtUnix := 1300
  present := by cases second <;> decide

def twoWaiting : RevokeState Bool := ⟨⟨some "revocations.jwt", ∅, false, false⟩, none, fun _ => .waiting⟩

theorem serial_revocations_durable :
    Durable twoRequests 1000 (Trace.final (revokeStep storeManager twoRequests) twoWaiting
      ([.insert false 1000, .snapshot false, .land false, .insert true 1000] ++
        .snapshot true :: ([] ++ .land true :: []))) := by
  refine (document_durable_iff storeManager twoRequests ?_ ?_ 1000).mpr ?_
  · exact ⟨rfl, rfl, ⟨_, rfl⟩, rfl, rfl, ⟨_, rfl⟩, trivial⟩
  · exact nofun
  · intro j _ _
    cases j
    · exact .inr ⟨1300, rfl, le_refl _⟩
    · exact .inr ⟨1300, rfl, le_refl _⟩

def overtaken : List (RevokeAction Bool) :=
  [.insert false 1000, .snapshot false, .insert true 1000, .snapshot true, .land true, .land false]

theorem overtaken_revocation_lost :
    Trace.Along (revokeStep storeManager twoRequests) RevokeEnabled twoWaiting overtaken ∧
    (∀ j, (Trace.final (revokeStep storeManager twoRequests) twoWaiting overtaken).phase j =
      .acknowledged) ∧
    ¬ Durable twoRequests 1000
      (Trace.final (revokeStep storeManager twoRequests) twoWaiting overtaken) := by
  refine ⟨⟨rfl, rfl, rfl, rfl, ⟨_, rfl⟩, ⟨_, rfl⟩, trivial⟩, fun j => by cases j <;> rfl, fun h => ?_⟩
  obtain ⟨_, _, _, hdocument, hentries, hlookup, -⟩ := h true rfl (by decide)
  cases hdocument
  cases hentries
  cases hlookup

end Basil.Revocation
