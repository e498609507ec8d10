import Basil.ListenerTransition

/-!
# The gates of interleaved listener transitions

`Gates` is the invariant of the listener runtime: the gated listeners are those of the unfinished
transitions, each is held by one of them, and its connections only get fewer while it is held.
-/

namespace Basil.ListenerTransition

open Connection Table Trace

def Phase.cleared : Phase → Bool
  | .ready | .installing | .committed => true
  | .gated | .closing => false

namespace ListenerRuntime

structure Gates (ceilings : ConnectionCeilings) (r : ListenerRuntime) : Prop where
  ceilings_eq : r.transports.ceilings = ceilings
  books : r.transports.registry.Books ceilings
  tokens : ∀ token t, r.transitions.lookup token = some t → token < r.nextToken
  names : ∀ token t, r.transitions.lookup token = some t → ∀ name,
    name ∈ t.guard.names ↔ Changes t.current t.candidate name
  gated : ∀ name, name ∈ r.transports.registry.gatedListeners ↔
    ∃ token t, r.transitions.lookup token = some t ∧ name ∈ t.guard.names
  apart : ∀ token token' t t', r.transitions.lookup token = some t →
    r.transitions.lookup token' = some t' → token ≠ token' →
      ∀ name ∈ t.guard.names, name ∉ t'.guard.names
  falling : ∀ token t, r.transitions.lookup token = some t → ∀ name ∈ t.guard.names,
    live r.transports.registry name ≤ t.guard.activeForListener name
  checkable : ∀ token t, r.transitions.lookup token = some t →
    requireZeroActive t.impacts = .ok () → ∀ name ∈ t.guard.names,
      t.guard.activeForListener name = 0
  checked : ∀ token t, r.transitions.lookup token = some t → t.phase.cleared = true →
    ∀ name ∈ t.guard.names, t.guard.activeForListener name = 0

/-- What `Gates` says of one transition. -/
structure Held (r : ListenerRuntime) (token : Nat) (t : Transition) : Prop where
  token_lt : token < r.nextToken
  names : ∀ name, name ∈ t.guard.names ↔ Changes t.current t.candidate name
  falling : ∀ name ∈ t.guard.names, live r.transports.registry name ≤ t.guard.activeForListener name
  checkable : requireZeroActive t.impacts = .ok () → ∀ name ∈ t.guard.names,
    t.guard.activeForListener name = 0
  checked : t.phase.cleared = true → ∀ name ∈ t.guard.names, t.guard.activeForListener name = 0

variable {ceilings : ConnectionCeilings} {r r' : ListenerRuntime} {token : Nat} {t : Transition}
  {phase : Phase}

theorem Gates.held (h : Gates ceilings r) (ht : r.transitions.lookup token = some t) : Held r token t :=
  ⟨h.tokens token t ht, h.names token t ht, h.falling token t ht, h.checkable token t ht,
    h.checked token t ht⟩

theorem gates_of_held (hceilings : r.transports.ceilings = ceilings)
    (hbooks : r.transports.registry.Books ceilings)
    (hheld : ∀ token t, r.transitions.lookup token = some t → Held r token t)
    (hgated : ∀ name, name ∈ r.transports.registry.gatedListeners ↔
      ∃ token t, r.transitions.lookup token = some t ∧ name ∈ t.guard.names)
    (hapart : ∀ token token' t t', r.transitions.lookup token = some t →
      r.transitions.lookup token' = some t' → token ≠ token' →
        ∀ name ∈ t.guard.names, name ∉ t'.guard.names) : Gates ceilings r where
  ceilings_eq := hceilings
  books := hbooks
  tokens token t ht := (hheld token t ht).token_lt
  names token t ht := (hheld token t ht).names
  gated := hgated
  apart := hapart
  falling token t ht := (hheld token t ht).falling
  checkable token t ht := (hheld token t ht).checkable
  checked token t ht := (hheld token t ht).checked

theorem gates_start (ceilings : ConnectionCeilings) : Gates ceilings (start ceilings .empty) := by
  have hnone : ∀ {token t}, (start ceilings .empty).transitions.lookup token ≠ some t := nofun
  refine gates_of_held rfl (RegistryState.books_empty ceilings) (fun _ _ ht => absurd ht hnone)
    (fun name => ⟨nofun, ?_⟩) fun _ _ _ _ ht => absurd ht hnone
  rintro ⟨token, t, ht, -⟩
  exact absurd ht hnone

theorem Gates.connection (h : Gates ceilings r) (hper : 0 < ceilings.maximumPerListener)
    (call : ConnectionCall) : Gates ceilings { r with transports := (r.transports.serve call).1 } := by
  obtain ⟨rfl, hbooks⟩ : r.transports.ceilings = ceilings ∧ _ := ⟨h.ceilings_eq, h.books⟩
  obtain ⟨hbooks, hgates, hlive⟩ := serve_served hbooks hper call
  refine { h with
    ceilings_eq := Transports.serve_ceilings r.transports call
    books := hbooks, gated := ?_, falling := ?_ }
  · intro name
    rw [hgates]
    exact h.gated name
  · intro token t ht name hname
    have hgated := (h.gated name).mpr ⟨token, t, ht, hname⟩
    exact (hlive name hgated).trans (h.falling token t ht name hname)

theorem Gates.begin (h : Gates ceilings r) (current candidate : ListenerConfigSet) :
    Gates ceilings (r.begin current candidate).1 := by
  unfold ListenerRuntime.begin
  dsimp only
  cases hclose : closeGates r.transports.registry
      (disruptiveNames (assessTransition current candidate r.transports.registry)) with
  | error e => exact h
  | ok closed =>
    obtain ⟨registry, guard⟩ := closed
    obtain ⟨hfree, rfl, hnames, hactive⟩ := closeGates_eq_ok hclose
    -- the names of the new guard are gated by nobody else
    have hnew : ∀ token t, r.transitions.lookup token = some t → ∀ name ∈ t.guard.names,
        name ∉ guard.names := by
      intro token t ht name hname hmem
      rw [hnames] at hmem
      exact hfree name hmem ((h.gated name).mpr ⟨token, t, ht, hname⟩)
    refine gates_of_held h.ceilings_eq { h.books with } ?_ ?_ ?_
    · intro token t ht
      rw [lookup_insert_eq] at ht
      split at ht
      · next heq =>
        subst heq
        cases ht
        refine ⟨Nat.lt_succ_self _, fun name => ?_, fun name hname => ?_, fun hzero name hname => ?_, nofun⟩
        · rw [hnames]
          exact mem_disruptiveNames
        · rw [hactive name (hnames ▸ hname)]
          exact Nat.le_of_eq (h.books.listeners.count_eq name).symm
        · exact requireZeroActive_refreshed hzero (hnames ▸ hname)
      · have hheld := h.held ht
        exact { hheld with token_lt := Nat.lt_succ_of_lt hheld.token_lt }
    · intro name
      simp only [List.mem_append, lookup_insert_eq]
      rw [h.gated name, ← hnames]
      constructor
      · rintro (⟨token, t, ht, hname⟩ | hname)
        · have hold : token ≠ r.nextToken := Nat.ne_of_lt (h.tokens token t ht)
          exact ⟨token, t, by rw [if_neg hold]; exact ht, hname⟩
        · exact ⟨r.nextToken, _, if_pos rfl, hname⟩
      · rintro ⟨token, t, ht, hname⟩
        split at ht
        · cases ht
          exact .inr hname
        · exact .inl ⟨token, t, ht, hname⟩
    · intro token token' t t' ht ht' hne name hname hname'
      rw [lookup_insert_eq] at ht ht'
      split at ht
      · split at ht'
        · next heq heq' => exact hne (heq.trans heq'.symm)
        · cases ht
          exact hnew token' t' ht' name hname' hname
      · split at ht'
        · cases ht'
          exact hnew token t ht name hname hname'
        · exact h.apart token token' t t' ht ht' hne name hname hname'

/-- Every transition of the new table is an old one, with the same names and no earlier token. -/
theorem Gates.kept (h : Gates ceilings r) (hceilings : r'.transports.ceilings = ceilings)
    (hbooks : r'.transports.registry.Books ceilings)
    (hold : ∀ token' t', r'.transitions.lookup token' = some t' → Held r' token' t' ∧
      ∃ u, r.transitions.lookup token' = some u ∧ t'.guard = u.guard)
    (hgated : ∀ name, name ∈ r'.transports.registry.gatedListeners ↔
      ∃ token t, r'.transitions.lookup token = some t ∧ name ∈ t.guard.names) :
    Gates ceilings r' := by
  refine gates_of_held hceilings hbooks (fun token t ht => (hold token t ht).1) hgated ?_
  intro token₁ token₂ t₁ t₂ ht₁ ht₂ hne
  obtain ⟨-, u₁, hu₁, hguard₁⟩ := hold token₁ t₁ ht₁
  obtain ⟨-, u₂, hu₂, hguard₂⟩ := hold token₂ t₂ ht₂
  rw [hguard₁, hguard₂]
  exact h.apart token₁ token₂ u₁ u₂ hu₁ hu₂ hne

theorem Gates.setPhase (h : Gates ceilings r) (ht : r.transitions.lookup token = some t)
    (hphase : phase.cleared = true → t.phase.cleared = true ∨ requireZeroActive t.impacts = .ok ()) :
    Gates ceilings (r.setPhase token phase) := by
  have hlookup (other : Nat) : (r.setPhase token phase).transitions.lookup other =
      if other = token then some { t with phase := phase } else r.transitions.lookup other := by
    simp only [ListenerRuntime.setPhase, lookup_modify]
    split
    · next heq => rw [heq, ht, Option.map_some]
    · rfl
  refine h.kept h.ceilings_eq h.books ?_ fun name => (h.gated name).trans ?_
  · intro other t' ht'
    rw [hlookup] at ht'
    split at ht'
    · next heq =>
      subst heq
      cases ht'
      have hheld := h.held ht
      refine ⟨{ hheld with checked := fun hcleared => ?_ }, t, ht, rfl⟩
      exact (hphase hcleared).elim hheld.checked hheld.checkable
    · have hheld := h.held ht'
      exact ⟨{ hheld with }, t', ht', rfl⟩
  · refine exists_congr fun other => ?_
    rw [hlookup]
    split
    · next heq =>
      rw [heq, ht]
      simp
    · rfl

theorem Gates.fail (h : Gates ceilings r) (ht : r.transitions.lookup token = some t)
    (error : ListenerTransitionError) : Gates ceilings (r.fail token error).1 := by
  have hclosing : Gates ceilings (r.setPhase token .closing) := h.setPhase ht nofun
  exact { hclosing with }

theorem Gates.drop (h : Gates ceilings r) (ht : r.transitions.lookup token = some t) :
    Gates ceilings { r with
      transports := { r.transports with
        registry := r.transports.registry.endListenerTransition t.guard.names }
      transitions := r.transitions.erase token } := by
  have hold : ∀ token' t', (r.transitions.erase token).lookup token' = some t' →
      token' ≠ token ∧ r.transitions.lookup token' = some t' := by
    intro token' t' ht'
    rw [lookup_erase_eq] at ht'
    split at ht'
    · cases ht'
    · next hne => exact ⟨hne, ht'⟩
  refine h.kept h.ceilings_eq { h.books with } (fun token' t' ht' => ?_) fun name => ?_
  · have hbefore := (hold token' t' ht').2
    have hheld := h.held hbefore
    exact ⟨{ hheld with }, t', hbefore, rfl⟩
  · simp only [RegistryState.endListenerTransition, List.mem_filter, decide_eq_true_eq]
    rw [h.gated name]
    constructor
    · rintro ⟨⟨token', t', ht', hname⟩, hother⟩
      have hne : token' ≠ token := by
        rintro rfl
        rw [ht] at ht'
        cases ht'
        exact hother hname
      refine ⟨token', t', ?_, hname⟩
      rw [lookup_erase_eq, if_neg hne]
      exact ht'
    · rintro ⟨token', t', ht', hname⟩
      obtain ⟨hne, ht'⟩ := hold token' t' ht'
      exact ⟨⟨token', t', ht', hname⟩, h.apart token' token t' t ht' ht hne name hname⟩

theorem Gates.whenAt (h : Gates ceilings r) {f : Transition → ListenerRuntime × Reply}
    (hf : ∀ t, r.transitions.lookup token = some t → t.phase = phase → Gates ceilings (f t).1) :
    Gates ceilings (r.whenAt token phase f).1 := by
  unfold ListenerRuntime.whenAt
  cases ht : r.transitions.lookup token with
  | none => exact h
  | some t =>
    by_cases hphase : t.phase = phase
    · simpa [hphase] using hf t ht hphase
    · simpa [hphase] using h

theorem gates_step (r : ListenerRuntime) (action : Action) (h : Gates ceilings r)
    (hper : 0 < ceilings.maximumPerListener) : Gates ceilings (step r action).1 := by
  cases action with
  | connection call => exact h.connection hper call
  | activate =>
    simp only [step]
    split
    · exact { h with }
    · exact h
  | begin current candidate => exact h.begin current candidate
  | validate =>
    refine h.whenAt fun t ht _ => ?_
    split
    · exact h.fail ht _
    · next hzero => exact h.setPhase ht fun _ => .inr hzero
  | lock token =>
    refine h.whenAt fun t ht hphase => ?_
    split
    · split
      · have hmoved : Gates ceilings (r.setPhase token .installing) :=
          h.setPhase ht fun _ => .inl (by rw [hphase]; rfl)
        exact { hmoved with }
      · exact h.fail ht _
    · exact h
  | install =>
    refine h.whenAt fun t ht hphase => ?_
    split
    · exact h.setPhase ht fun _ => .inl (by rw [hphase]; rfl)
    · exact h.fail ht _
  | retire token =>
    refine h.whenAt fun t ht _ => ?_
    have hmoved : Gates ceilings (r.setPhase token .closing) := h.setPhase ht nofun
    exact { hmoved with }
  | abandon =>
    simp only [step]
    split
    · exact h
    · next t ht =>
      split
      · exact h
      · exact h.fail ht _
  | drop => exact h.whenAt fun t ht _ => h.drop ht

theorem gates_run (hper : 0 < ceilings.maximumPerListener) (actions : List Action) :
    Gates ceilings (final step (start ceilings .empty) actions) :=
  invariant (Gates ceilings) (fun r action h => gates_step r action h hper)
    (gates_start ceilings) actions

/-! ### One transition among others -/

def Sparing (token : Nat) : Action → Prop
  | .begin _ _ => False
  | .drop other => other = token
  | _ => True

def SameOthers (token : Nat) (r r' : ListenerRuntime) : Prop :=
  ∀ other, other ≠ token →
    (r'.transitions.lookup other).map Transition.guard =
      (r.transitions.lookup other).map Transition.guard

theorem setPhase_guard (r : ListenerRuntime) (token other : Nat) (phase : Phase) :
    ((r.setPhase token phase).transitions.lookup other).map Transition.guard =
      (r.transitions.lookup other).map Transition.guard := by
  simp only [setPhase, lookup_modify]
  split
  · rw [Option.map_map]
    rfl
  · rfl

theorem sameOthers_whenAt {at' : Nat} {r : ListenerRuntime}
    {f : Transition → ListenerRuntime × Reply} (hf : ∀ t, SameOthers token r (f t).1) :
    SameOthers token r (r.whenAt at' phase f).1 := by
  unfold whenAt
  split
  · exact fun _ _ => rfl
  · split
    · exact hf _
    · exact fun _ _ => rfl

theorem sameOthers_step (r : ListenerRuntime) (action : Action) (h : Sparing token action) :
    SameOthers token r (step r action).1 := by
  have hphase : ∀ at' phase, SameOthers token r (r.setPhase at' phase) :=
    fun at' phase other _ => setPhase_guard r at' other phase
  have hfail : ∀ at' error, SameOthers token r (r.fail at' error).1 :=
    fun at' _ other _ => setPhase_guard r at' other .closing
  cases action with
  | connection => exact fun _ _ => rfl
  | activate =>
    simp only [step]
    split <;> exact fun _ _ => rfl
  | begin => cases h
  | validate at' =>
    refine sameOthers_whenAt fun t => ?_
    split
    · exact hfail at' _
    · exact hphase at' _
  | lock at' =>
    refine sameOthers_whenAt fun t => ?_
    split
    · split
      · exact hphase at' _
      · exact hfail at' _
    · exact fun _ _ => rfl
  | install at' =>
    refine sameOthers_whenAt fun t => ?_
    split
    · exact hphase at' _
    · exact hfail at' _
  | retire at' => exact sameOthers_whenAt fun t => hphase at' _
  | abandon at' =>
    simp only [step]
    split
    · exact fun _ _ => rfl
    · split
      · exact fun _ _ => rfl
      · exact hfail at' _
  | drop =>
    cases h
    refine sameOthers_whenAt fun t other hne => ?_
    simp [lookup_erase_eq, if_neg hne]

theorem sameOthers_run (r : ListenerRuntime) (actions : List Action)
    (h : ∀ action ∈ actions, Sparing token action) :
    SameOthers token r (final step r actions) := by
  induction actions generalizing r with
  | nil => exact fun _ _ => rfl
  | cons action actions ih =>
    intro other hne
    have hrest := ih (step r action).1 (fun a ha => h a (List.mem_cons_of_mem _ ha)) other hne
    have hfirst := sameOthers_step r action (h action List.mem_cons_self) other hne
    exact hrest.trans hfirst

theorem Gates.gated_congr {r r' : ListenerRuntime} (h : Gates ceilings r) (h' : Gates ceilings r')
    (hsame : ∀ token, (r'.transitions.lookup token).map Transition.guard =
      (r.transitions.lookup token).map Transition.guard) (name : String) :
    name ∈ r'.transports.registry.gatedListeners ↔
      name ∈ r.transports.registry.gatedListeners := by
  have hholds : ∀ (s : ListenerRuntime) (token : Nat),
      (∃ t, s.transitions.lookup token = some t ∧ name ∈ t.guard.names) ↔
        ∃ guard, (s.transitions.lookup token).map Transition.guard = some guard ∧
          name ∈ guard.names := by
    intro s token
    cases s.transitions.lookup token <;> simp
  rw [h.gated, h'.gated]
  refine exists_congr fun token => ?_
  rw [hholds, hholds, hsame]

theorem install_committed {prepared : Bool} (ht : r.transitions.lookup token = some t)
    (h : (step r (.install token prepared)).2 = .committed) : t.phase = .installing := by
  by_contra hphase
  simp only [step, whenAt, ht, if_neg hphase] at h
  cases h

theorem begin_failed {current candidate : ListenerConfigSet} {error : ListenerTransitionError}
    (h : (step r (.begin current candidate)).2 = .failed error) :
    (step r (.begin current candidate)).1 = r := by
  simp only [step, ListenerRuntime.begin] at h ⊢
  split at h
  · rfl
  · cases h

theorem sameOthers_begin (r : ListenerRuntime) (current candidate : ListenerConfigSet) :
    SameOthers r.nextToken r (step r (.begin current candidate)).1 := by
  intro other hne
  simp only [step, ListenerRuntime.begin]
  split
  · rfl
  · simp [lookup_insert_eq, if_neg hne]

def bothListeners : ListenerConfigSet :=
  ⟨[hostListener, ciListener], by decide, by decide, ⟨hostListener, by decide, rfl⟩, by decide⟩

def courierRemoval : List Action :=
  [.activate,
    .connection (.register (some ⟨some 4242, 1000, 1000⟩) "host" .host),
    .connection (.register (some ⟨some 4243, 1001, 1001⟩) "ci" .courier),
    .connection (.cancel 2 fun _ => true), .connection (.release 2),
    .begin bothListeners hostOnly, .validate 0, .lock 0]

end ListenerRuntime

end Basil.ListenerTransition
