import Basil.CiRuleSelection
import Basil.Lib.Trace

/-!
# Interleaved uses of the key set caches (`service/invocation.rs`)

The clock of a request is read once; its attempt begins at that reading.
-/

namespace Basil.CiFederation

open Option

open List hiding keys

open GenerationJwksCache

namespace ServeDecision

def begins : ServeDecision → Bool
  | fresh _ => false
  | revalidate refreshAllowed _ => refreshAllowed
  | unknownKid refreshAllowed => refreshAllowed

def offers : ServeDecision → Option GenerationJwks
  | fresh keys => some keys
  | revalidate _ stale => stale
  | unknownKid _ => none

end ServeDecision

namespace GenerationJwksCache

variable {cache : GenerationJwksCache} {now u : Nat} {keys : GenerationJwks}

theorem serveOrRevalidate_cases (cache : GenerationJwksCache) (kid : String) (now : Nat) :
    ((cache.serveOrRevalidate kid now).1.begins = false ∧
      (cache.serveOrRevalidate kid now).2 = cache) ∨
    ((cache.serveOrRevalidate kid now).1.begins = true ∧ cache.shouldRefresh now = true ∧
      (cache.serveOrRevalidate kid now).2 = { cache with lastRefreshAttempt := some now }) := by
  unfold serveOrRevalidate tryBeginRefresh
  by_cases hrefresh : cache.shouldRefresh now = true
  · rw [if_pos hrefresh]
    split
    · split
      · exact .inl ⟨rfl, rfl⟩
      · exact .inr ⟨rfl, hrefresh, rfl⟩
    · exact .inr ⟨rfl, hrefresh, rfl⟩
  · rw [if_neg hrefresh]
    split
    · split <;> exact .inl ⟨rfl, rfl⟩
    · exact .inl ⟨rfl, rfl⟩

theorem shouldRefresh_some {last : Nat} (h : cache.shouldRefresh now = true)
    (hlast : cache.lastRefreshAttempt = some last) : last + cache.policy.refreshCooldown ≤ now := by
  rw [shouldRefresh, hlast] at h
  simp only [all_some, Bool.and_eq_true, decide_eq_true_eq] at h
  omega

theorem keysWithin_le {window wider : Nat} (hle : window ≤ wider)
    (h : cache.keysWithin window now = true) (hkeys : cache.fetchedAt = some u) :
    u ≤ now ∧ now ≤ u + wider := by
  rw [keysWithin, hkeys] at h
  simp only [any_some, Bool.and_eq_true, decide_eq_true_eq] at h
  omega

theorem serveOrRevalidate_offers {kid : String}
    (h : (cache.serveOrRevalidate kid now).1.offers = some keys) : cache.keys = some keys ∧
      ∀ u, cache.fetchedAt = some u →
        u ≤ now ∧ now ≤ u + (cache.policy.maxAge + cache.policy.staleIfError) := by
  rw [serveOrRevalidate] at h
  split at h
  · next found hfound =>
    have hcached : cache.keys = some found := (filter_eq_some_iff.mp hfound).1
    split at h
    · next hfresh =>
      cases h
      exact ⟨hcached, fun u => keysWithin_le (Nat.le_add_right _ _) hfresh⟩
    · simp only [ServeDecision.offers, ite_none_right_eq_some, Option.some.injEq] at h
      obtain ⟨hstale, rfl⟩ := h
      exact ⟨hcached, fun u => keysWithin_le le_rfl hstale⟩
  · cases h

theorem install_newest (cache : GenerationJwksCache) (keys : GenerationJwks) (now : Nat) :
    (∃ u, cache.fetchedAt = some u ∧ now < u ∧ cache.install keys now = cache) ∨
      ((∀ u, cache.fetchedAt = some u → u ≤ now) ∧
        cache.install keys now = { cache with keys := some keys, fetchedAt := some now }) := by
  unfold install
  cases hfetched : cache.fetchedAt with
  | none => exact .inr ⟨nofun, rfl⟩
  | some u =>
    by_cases hnewer : now < u
    · exact .inl ⟨u, rfl, hnewer, by simp [hnewer]⟩
    · refine .inr ⟨?_, by simp [hnewer]⟩
      rintro _ ⟨⟩
      exact Nat.le_of_not_lt hnewer

end GenerationJwksCache

/-! ### Interleavings -/

structure CacheSetup where
  generation : Nat
  policy : JwksCachePolicy

structure Resolution where
  ruleId : String
  begun : Nat
  stale : Option GenerationJwks
  fetched : Option GenerationJwks

structure CachesState where
  caches : JwksCaches
  resolving : Table Nat Resolution

inductive CacheAction where
  | consult (id : Nat) (ruleId kid : String) (now : Nat)
  | fetch (id : Nat) (document : Option (OrdMap String RsaJwk))
  | install (id : Nat)

inductive CacheEvent where
  | idle
  | consulted (ruleId : String) (now : Nat) (decision : ServeDecision)
  | fetched (ruleId : String) (begun : Nat) (keys : GenerationJwks)
  | failed (ruleId : String) (begun : Nat) (stale : Option GenerationJwks)
  | installed (ruleId : String) (begun : Nat) (keys : GenerationJwks)

namespace CacheEvent

def begins (ruleId : String) : CacheEvent → Option Nat
  | consulted ruleId' now decision => if ruleId' = ruleId ∧ decision.begins then some now else none
  | _ => none

def hands : CacheEvent → Option (String × Nat × GenerationJwks)
  | consulted ruleId now decision =>
      if decision.begins then none else decision.offers.map fun keys => (ruleId, now, keys)
  | failed ruleId begun stale => stale.map fun keys => (ruleId, begun, keys)
  | installed ruleId begun keys => some (ruleId, begun, keys)
  | _ => none

end CacheEvent

namespace CachesState

def start (g : CacheSetup) (ruleIds : List String) : CachesState :=
  ⟨ruleIds.foldr (fun ruleId caches => caches.insert ruleId (.new g.policy)) ∅, ∅⟩

def consult (s : CachesState) (id : Nat) (ruleId kid : String) (now : Nat) : CachesState × CacheEvent :=
  match s.resolving.lookup id, s.caches.lookup ruleId with
  | none, some cache =>
      let (decision, cache') := cache.serveOrRevalidate kid now
      (⟨s.caches.insert ruleId cache',
        if decision.begins then s.resolving.insert id ⟨ruleId, now, decision.offers, none⟩
        else s.resolving⟩, .consulted ruleId now decision)
  | _, _ => (s, .idle)

def fetch (g : CacheSetup) (s : CachesState) (id : Nat) (document : Option (OrdMap String RsaJwk)) :
    CachesState × CacheEvent :=
  match s.resolving.lookup id, document with
  | some ⟨ruleId, begun, stale, none⟩, some document =>
      let keys : GenerationJwks := ⟨g.generation, document⟩
      ({ s with resolving := s.resolving.insert id ⟨ruleId, begun, stale, some keys⟩ },
        .fetched ruleId begun keys)
  | some ⟨ruleId, begun, stale, none⟩, none =>
      ({ s with resolving := s.resolving.erase id }, .failed ruleId begun stale)
  | _, _ => (s, .idle)

def install (s : CachesState) (id : Nat) : CachesState × CacheEvent :=
  match s.resolving.lookup id with
  | some ⟨ruleId, begun, _, some keys⟩ =>
      (⟨s.caches.modify ruleId fun cache => cache.install keys begun, s.resolving.erase id⟩,
        .installed ruleId begun keys)
  | _ => (s, .idle)

def step (g : CacheSetup) (s : CachesState) : CacheAction → CachesState × CacheEvent
  | .consult id ruleId kid now => s.consult id ruleId kid now
  | .fetch id document => s.fetch g id document
  | .install id => s.install id

def begins (ruleId : String) (past : List CacheEvent) : List Nat :=
  past.filterMap (CacheEvent.begins ruleId)

/-! ### What the caches hold -/

section

variable (g : CacheSetup)

structure Fetched (past : List CacheEvent) (ruleId : String) (u : Nat) (keys : GenerationJwks) :
    Prop where
  generation : keys.generation = g.generation
  begun : u ∈ begins ruleId past
  fetched : .fetched ruleId u keys ∈ past

def Bounded (past : List CacheEvent) (ruleId : String) (t : Nat) (keys : GenerationJwks) : Prop :=
  ∃ u, Fetched g past ruleId u keys ∧ u ≤ t ∧ t ≤ u + (g.policy.maxAge + g.policy.staleIfError)

structure Sourced (past : List CacheEvent) (ruleId : String) (cache : GenerationJwksCache) : Prop where
  policy : cache.policy = g.policy
  attempted : ∀ u ∈ begins ruleId past, ∃ last, cache.lastRefreshAttempt = some last ∧ u ≤ last
  newest : ∀ u keys, .installed ruleId u keys ∈ past → ∃ latest, cache.fetchedAt = some latest ∧ u ≤ latest
  held : ∀ keys, cache.keys = some keys → ∃ u, cache.fetchedAt = some u ∧
    Fetched g past ruleId u keys ∧ .installed ruleId u keys ∈ past

structure Waiting (past : List CacheEvent) (r : Resolution) : Prop where
  begun : r.begun ∈ begins r.ruleId past
  stale : ∀ keys, r.stale = some keys → Bounded g past r.ruleId r.begun keys
  fetched : ∀ keys, r.fetched = some keys → Fetched g past r.ruleId r.begun keys

structure Traced (past : List CacheEvent) (s : CachesState) : Prop where
  spaced : ∀ ruleId, (begins ruleId past).Pairwise fun u v => u + g.policy.refreshCooldown ≤ v
  caches : ∀ ruleId cache, s.caches.lookup ruleId = some cache →
    Sourced g past ruleId cache
  waiting : ∀ id r, s.resolving.lookup id = some r → Waiting g past r

end

variable {g : CacheSetup} {past : List CacheEvent} {s : CachesState}
  {ruleId : String} {u now : Nat} {keys : GenerationJwks} {cache : GenerationJwksCache} {e : CacheEvent}

theorem begins_snoc (ruleId : String) (past : List CacheEvent) (e : CacheEvent) :
    begins ruleId (past ++ [e]) = begins ruleId past ++ (e.begins ruleId).toList := by
  cases h : e.begins ruleId <;> simp [begins, h]

theorem begins_snoc_none (h : e.begins ruleId = none) :
    begins ruleId (past ++ [e]) = begins ruleId past := by
  rw [begins_snoc, h, toList_none, append_nil]

theorem Fetched.snoc (h : Fetched g past ruleId u keys) :
    Fetched g (past ++ [e]) ruleId u keys where
  generation := h.generation
  begun := by
    rw [begins_snoc]
    exact mem_append_left _ h.begun
  fetched := mem_append_left _ h.fetched

theorem Waiting.snoc {r : Resolution} (h : Waiting g past r) :
    Waiting g (past ++ [e]) r where
  begun := by
    rw [begins_snoc]
    exact mem_append_left _ h.begun
  stale := by
    intro keys hkeys
    obtain ⟨u, hfetched, hle⟩ := h.stale keys hkeys
    exact ⟨u, hfetched.snoc, hle⟩
  fetched := fun keys hkeys => (h.fetched keys hkeys).snoc

section Sourced

variable (h : Sourced g past ruleId cache)
include h

theorem Sourced.snoc {last : Option Nat} (hinstalled : ∀ u keys, e ≠ .installed ruleId u keys)
    (hattempted : ∀ u ∈ begins ruleId (past ++ [e]), ∃ latest, last = some latest ∧ u ≤ latest) :
    Sourced g (past ++ [e]) ruleId { cache with lastRefreshAttempt := last } where
  policy := h.policy
  attempted := hattempted
  newest := by
    intro u keys hmem
    rcases mem_append.mp hmem with hold | hnew
    · exact h.newest u keys hold
    · exact absurd (mem_singleton.mp hnew).symm (hinstalled u keys)
  held := by
    intro keys hkeys
    obtain ⟨u, hlatest, hfetched, hmem⟩ := h.held keys hkeys
    exact ⟨u, hlatest, hfetched.snoc, mem_append_left _ hmem⟩

theorem Sourced.unused (hinstalled : ∀ u keys, e ≠ .installed ruleId u keys)
    (hbegins : e.begins ruleId = none) :
    Sourced g (past ++ [e]) ruleId cache :=
  h.snoc hinstalled (by rw [begins_snoc_none hbegins]; exact h.attempted)

theorem Sourced.bounded {kid : String}
    (hoffers : (cache.serveOrRevalidate kid now).1.offers = some keys) :
    Bounded g past ruleId now keys := by
  obtain ⟨hcached, hwithin⟩ := serveOrRevalidate_offers hoffers
  obtain ⟨u, hlatest, hfetched, -⟩ := h.held keys hcached
  refine ⟨u, hfetched, ?_⟩
  rw [← h.policy]
  exact hwithin u hlatest

theorem Sourced.consulted (kid : String) :
    Sourced g (past ++ [.consulted ruleId now (cache.serveOrRevalidate kid now).1]) ruleId
      (cache.serveOrRevalidate kid now).2 := by
  rcases serveOrRevalidate_cases cache kid now with ⟨hbegins, hcache⟩ |
    ⟨hbegins, hrefresh, hcache⟩
  · rw [hcache]
    exact h.unused nofun (if_neg fun hboth => by simp [hbegins] at hboth)
  · rw [hcache]
    refine h.snoc nofun ?_
    intro u hu
    refine ⟨now, rfl, ?_⟩
    rw [begins_snoc, CacheEvent.begins, if_pos ⟨rfl, hbegins⟩] at hu
    rcases mem_append.mp hu with hold | hnew
    · obtain ⟨_, hlast, _⟩ := h.attempted u hold
      have hapart := shouldRefresh_some hrefresh hlast
      omega
    · exact (mem_singleton.mp hnew).le

theorem Sourced.installed (hfetched : Fetched g past ruleId u keys) :
    Sourced g (past ++ [.installed ruleId u keys]) ruleId (cache.install keys u) := by
  have hbegins : begins ruleId (past ++ [.installed ruleId u keys]) = begins ruleId past :=
    begins_snoc_none rfl
  rcases install_newest cache keys u with ⟨latest, hlatest, hlt, hcache⟩ |
    ⟨hnewest, hcache⟩
  · rw [hcache]
    refine ⟨h.policy, hbegins ▸ h.attempted, ?_, ?_⟩
    · intro u' keys' hmem
      rcases mem_append.mp hmem with hold | hnew
      · exact h.newest u' keys' hold
      · cases mem_singleton.mp hnew
        exact ⟨latest, hlatest, hlt.le⟩
    · intro keys' hkeys'
      obtain ⟨u', hu', hfetched', hmem⟩ := h.held keys' hkeys'
      exact ⟨u', hu', hfetched'.snoc, mem_append_left _ hmem⟩
  · rw [hcache]
    refine ⟨h.policy, hbegins ▸ h.attempted, ?_, ?_⟩
    · intro u' keys' hmem
      refine ⟨u, rfl, ?_⟩
      rcases mem_append.mp hmem with hold | hnew
      · obtain ⟨latest, hlatest, hle⟩ := h.newest u' keys' hold
        exact hle.trans (hnewest latest hlatest)
      · cases mem_singleton.mp hnew
        exact le_rfl
    · rintro _ ⟨⟩
      exact ⟨u, rfl, hfetched.snoc, mem_append_right _ (mem_singleton_self _)⟩

end Sourced

/-! ### Steps and runs -/

variable (g)

structure Allowed (past : List CacheEvent) (e : CacheEvent) : Prop where
  handed : ∀ ruleId t keys, e.hands = some (ruleId, t, keys) →
    Bounded g past ruleId t keys
  newest : ∀ ruleId now decision keys, e = .consulted ruleId now decision →
    decision.offers = some keys → ∀ u dropped, .installed ruleId u dropped ∈ past →
      ∃ later, u ≤ later ∧ .fetched ruleId later keys ∈ past

def Follows (past : List CacheEvent) (out : CachesState × CacheEvent) : Prop :=
  Traced g (past ++ [out.2]) out.1 ∧ Allowed g past out.2

variable {g}

section Traced

variable (h : Traced g past s)
include h

theorem Traced.next {s' : CachesState}
    (hspaced : ∀ ruleId v, e.begins ruleId = some v →
      ∀ u ∈ begins ruleId past, u + g.policy.refreshCooldown ≤ v)
    (hcaches : ∀ ruleId cache, s'.caches.lookup ruleId = some cache →
      Sourced g (past ++ [e]) ruleId cache)
    (hwaiting : ∀ id r, s'.resolving.lookup id = some r →
      s.resolving.lookup id = some r ∨ Waiting g (past ++ [e]) r) :
    Traced g (past ++ [e]) s' where
  spaced := by
    intro ruleId
    rw [begins_snoc, pairwise_append]
    refine ⟨h.spaced ruleId, ?_, ?_⟩
    · cases e.begins ruleId <;> simp
    · intro u hu v hv
      exact hspaced ruleId v (mem_toList.mp hv) u hu
  caches := hcaches
  waiting := by
    intro id r hr
    rcases hwaiting id r hr with hold | hnew
    · exact (h.waiting id r hold).snoc
    · exact hnew

theorem Traced.unused {resolving : Table Nat Resolution}
    (hinstalled : ∀ ruleId u keys, e ≠ .installed ruleId u keys)
    (hbegins : ∀ ruleId, e.begins ruleId = none)
    (hwaiting : ∀ id r, resolving.lookup id = some r →
      s.resolving.lookup id = some r ∨ Waiting g (past ++ [e]) r) :
    Traced g (past ++ [e]) ⟨s.caches, resolving⟩ := by
  refine h.next ?_ ?_ hwaiting
  · intro ruleId v hv
    rw [hbegins ruleId] at hv
    cases hv
  · intro ruleId cache hcache
    exact (h.caches ruleId cache hcache).unused (hinstalled ruleId) (hbegins ruleId)

theorem Traced.idle : Follows g past (s, .idle) :=
  ⟨h.unused nofun (fun _ => rfl) fun _ _ => .inl, nofun, nofun⟩

theorem Traced.consult (id : Nat) (ruleId kid : String) (now : Nat) :
    Follows g past (s.consult id ruleId kid now) := by
  unfold CachesState.consult
  split
  · next cache hfree hcache =>
    have hsourced := h.caches ruleId cache hcache
    refine ⟨h.next ?_ ?_ ?_, ?_, ?_⟩
    · intro ruleId' v hv u hu
      rw [CacheEvent.begins, ite_none_right_eq_some] at hv
      obtain ⟨⟨rfl, hbegins⟩, ⟨⟩⟩ := hv
      rcases serveOrRevalidate_cases cache kid now with ⟨hnot, -⟩ | ⟨-, hrefresh, -⟩
      · rw [hnot] at hbegins
        cases hbegins
      · obtain ⟨_, hlast, hle⟩ := hsourced.attempted u hu
        have hapart := shouldRefresh_some hrefresh hlast
        rw [hsourced.policy] at hapart
        omega
    · intro ruleId' cache' hcache'
      rw [Table.lookup_insert_eq] at hcache'
      split at hcache'
      · next hsame =>
        cases hcache'
        subst hsame
        exact hsourced.consulted kid
      · next hother =>
        exact (h.caches ruleId' cache' hcache').unused nofun (if_neg fun hboth => hother hboth.1.symm)
    · intro id' r hr
      dsimp only at hr
      split at hr
      · next hbegins =>
        rw [Table.lookup_insert_eq] at hr
        split at hr
        · cases hr
          have hwaiting : Waiting g (past ++ [.consulted ruleId now
              (cache.serveOrRevalidate kid now).1]) ⟨ruleId, now,
                (cache.serveOrRevalidate kid now).1.offers, none⟩ := by
            refine ⟨?_, ?_, nofun⟩
            · rw [begins_snoc, CacheEvent.begins, if_pos ⟨rfl, hbegins⟩]
              exact mem_append_right _ (mem_singleton_self _)
            · intro keys hkeys
              obtain ⟨u, hfetched, hle⟩ := hsourced.bounded hkeys
              exact ⟨u, hfetched.snoc, hle⟩
          exact .inr hwaiting
        · exact .inl hr
      · exact .inl hr
    · intro ruleId' t keys hhands
      simp only [CacheEvent.hands, ite_none_left_eq_some, map_eq_some_iff] at hhands
      obtain ⟨-, _, hoffers, ⟨⟩⟩ := hhands
      exact hsourced.bounded hoffers
    · rintro _ _ _ keys ⟨⟩ hoffers u dropped hinstalled
      obtain ⟨hcached, -⟩ := serveOrRevalidate_offers hoffers
      obtain ⟨later, hlater, hfetched, -⟩ := hsourced.held keys hcached
      obtain ⟨_, hlatest, hle⟩ := hsourced.newest u dropped hinstalled
      rw [hlater] at hlatest
      cases hlatest
      exact ⟨later, hle, hfetched.fetched⟩
  · exact h.idle

theorem Traced.fetch (id : Nat) (document : Option (OrdMap String RsaJwk)) :
    Follows g past (s.fetch g id document) := by
  unfold CachesState.fetch
  split
  · next ruleId begun stale document hlookup =>
    have hpending := h.waiting id _ hlookup
    refine ⟨h.unused nofun (fun _ => rfl) ?_, nofun, nofun⟩
    intro id' r hr
    rw [Table.lookup_insert_eq] at hr
    split at hr
    · cases hr
      obtain ⟨hbegun, hstale, -⟩ := hpending.snoc (e := .fetched ruleId begun ⟨g.generation, document⟩)
      refine .inr ⟨hbegun, hstale, ?_⟩
      rintro _ ⟨⟩
      exact ⟨rfl, hbegun, mem_append_right _ (mem_singleton_self _)⟩
    · exact .inl hr
  · next ruleId begun stale hlookup =>
    refine ⟨h.unused nofun (fun _ => rfl) fun _ _ hr => .inl (Table.lookup_of_erase hr), ?_, nofun⟩
    intro ruleId' t keys hhands
    obtain ⟨_, hstale, ⟨⟩⟩ := map_eq_some_iff.mp hhands
    exact (h.waiting id _ hlookup).stale keys hstale
  · exact h.idle

theorem Traced.install (id : Nat) : Follows g past (s.install id) := by
  unfold CachesState.install
  split
  · next ruleId begun stale keys hlookup =>
    have hfetched := (h.waiting id _ hlookup).fetched keys rfl
    refine ⟨h.next nofun ?_ fun _ _ hr => .inl (Table.lookup_of_erase hr), ?_, nofun⟩
    · intro ruleId' cache' hcache'
      rw [Table.lookup_modify] at hcache'
      split at hcache'
      · next hsame =>
        subst hsame
        obtain ⟨cache, hcache, rfl⟩ := map_eq_some_iff.mp hcache'
        exact (h.caches ruleId' cache hcache).installed hfetched
      · next hother =>
        refine (h.caches ruleId' cache' hcache').unused ?_ rfl
        rintro _ _ ⟨⟩
        exact hother rfl
    · rintro _ _ _ ⟨⟩
      exact ⟨begun, hfetched, le_rfl, Nat.le_add_right _ _⟩
  · exact h.idle

theorem Traced.step (action : CacheAction) : Follows g past (s.step g action) :=
  match action with
  | .consult id ruleId kid now => h.consult id ruleId kid now
  | .fetch id document => h.fetch id document
  | .install id => h.install id

end Traced

theorem lookup_start {ruleIds : List String}
    (h : (start g ruleIds).caches.lookup ruleId = some cache) : cache = .new g.policy := by
  induction ruleIds with
  | nil => cases h
  | cons other ruleIds ih =>
    rw [start, foldr_cons, Table.lookup_insert_eq] at h
    split at h
    · exact (Option.some.inj h).symm
    · exact ih h

theorem traced_start (ruleIds : List String) : Traced g [] (start g ruleIds) where
  spaced _ := .nil
  caches _ _ hcache := lookup_start hcache ▸ ⟨rfl, nofun, nofun, nofun⟩
  waiting := nofun

def history (g : CacheSetup) (s : CachesState) (actions : List CacheAction) : List CacheEvent :=
  (Trace.events (step g) s actions).map Prod.snd

theorem traced_run (g : CacheSetup) (ruleIds : List String) (actions : List CacheAction) :
    Traced g (history g (start g ruleIds) actions) (Trace.final (step g) (start g ruleIds) actions) := by
  refine Trace.history (fun past s => Traced g (past.map Prod.snd) s) ?_ (traced_start ruleIds) actions
  intro past s action h
  rw [map_append]
  exact (h.step action).1

theorem jwks_staleness_bounded (g : CacheSetup) (ruleIds : List String) (actions : List CacheAction)
    (action : CacheAction) (ruleId : String) :
    let past := history g (start g ruleIds) actions
    let s := Trace.final (step g) (start g ruleIds) actions
    let e := (s.step g action).2
    (∀ t keys, e.hands = some (ruleId, t, keys) → keys.generation = g.generation ∧
      ∃ u, u ∈ begins ruleId past ∧ .fetched ruleId u keys ∈ past ∧
        u ≤ t ∧ t ≤ u + (g.policy.maxAge + g.policy.staleIfError)) ∧
    ((begins ruleId past).Pairwise fun u v => u + g.policy.refreshCooldown ≤ v) ∧
    (∀ cache keys, s.caches.lookup ruleId = some cache → cache.keys = some keys →
      ∃ u, .installed ruleId u keys ∈ past ∧
        ∀ v other, .installed ruleId v other ∈ past → v ≤ u) ∧
    ∀ now decision keys, e = .consulted ruleId now decision → decision.offers = some keys →
      ∀ u dropped, .installed ruleId u dropped ∈ past →
        ∃ later, u ≤ later ∧ .fetched ruleId later keys ∈ past := by
  intro past s e
  have htraced : Traced g past s := traced_run g ruleIds actions
  have hallowed : Allowed g past e := (htraced.step action).2
  refine ⟨?_, htraced.spaced ruleId, ?_, hallowed.newest ruleId⟩
  · intro t keys hhands
    obtain ⟨u, hfetched, hwithin⟩ := hallowed.handed ruleId t keys hhands
    exact ⟨hfetched.generation, u, hfetched.begun, hfetched.fetched, hwithin⟩
  · intro cache keys hcache hkeys
    have hsourced := htraced.caches ruleId cache hcache
    obtain ⟨u, hu, -, hinstalled⟩ := hsourced.held keys hkeys
    refine ⟨u, hinstalled, ?_⟩
    intro v other hother
    obtain ⟨_, hlatest, hle⟩ := hsourced.newest v other hother
    rw [hu] at hlatest
    cases hlatest
    exact hle

def listed : OrdMap String RsaJwk := ⟨[("k", ⟨"k", "n", "e"⟩)], List.pairwise_singleton _ _⟩

def relistingActions : List CacheAction :=
  [.consult 0 "release" "k" 0, .fetch 0 (some listed), .install 0, .consult 1 "release" "k" 310,
    .consult 2 "release" "k" 312, .fetch 2 (some .empty), .install 2, .fetch 1 none,
    .consult 3 "release" "k" 314, .fetch 3 (some listed), .install 3, .consult 4 "release" "k" 315]

theorem dropped_key_served_again :
    history ⟨1, .default⟩ (start ⟨1, .default⟩ ["release"]) relistingActions =
      [.consulted "release" 0 (.unknownKid true), .fetched "release" 0 ⟨1, listed⟩,
        .installed "release" 0 ⟨1, listed⟩,
        .consulted "release" 310 (.revalidate true (some ⟨1, listed⟩)),
        .consulted "release" 312 (.revalidate true (some ⟨1, listed⟩)),
        .fetched "release" 312 ⟨1, .empty⟩, .installed "release" 312 ⟨1, .empty⟩,
        .failed "release" 310 (some ⟨1, listed⟩),
        .consulted "release" 314 (.unknownKid true), .fetched "release" 314 ⟨1, listed⟩,
        .installed "release" 314 ⟨1, listed⟩, .consulted "release" 315 (.fresh ⟨1, listed⟩)] ∧
    (CacheEvent.failed "release" 310 (some ⟨1, listed⟩)).hands = some ("release", 310, ⟨1, listed⟩) ∧
    GenerationJwks.key ⟨1, .empty⟩ "k" = none ∧
    (GenerationJwks.key ⟨1, listed⟩ "k").isSome = true :=
  ⟨rfl, rfl, rfl, rfl⟩

end CachesState

end Basil.CiFederation
