import Basil.BundleSplice
import Basil.DepositPromotion

/-!
# The slot table over runs of bundle operations

Next to the table a run remembers which method each slot was made for, and what was last written.
-/

namespace Basil.Bundle

open Proc UnlockMethod FixedBytes List

/-! ### Ownership of a slot -/

section Ownership

variable {ι : Type} (env : UnlockEnv) (who : UnlockMethod → ι) (used : Set UnlockMethod)

/-- Under this header the slot gives `kek` to its own method and nothing to the other methods in
use. Methods with the same credential (`who`) count as one. -/
structure Owned (headerAad : Bytes) (kek : MasterKek) (slot : Slot) (owner : UnlockMethod) : Prop where
  inUse : owner ∈ used
  kind : slot.method = owner.kind
  own : ∀ method ∈ used, who method = who owner → method.kind = owner.kind ∧
    method.available env = true ∧ method.recoverKek env slot headerAad = .ok kek
  other : ∀ method ∈ used, who method ≠ who owner →
    ∀ kek', method.recoverKek env slot headerAad ≠ .ok kek'

/-- Each wrap and rewrap is recovered by its own method under the same header and slot id, and by
no other; a payload opens under the key, nonce and header it was sealed with. -/
structure OwnRecovery : Prop where
  wrap : ∀ {method : UnlockMethod}, method ∈ used → ∀ {draw kek headerAad slotId ledger ledger' params wrap},
    (method.wrapKek env draw kek headerAad slotId).exec ledger = (.ok (params, wrap), ledger') →
    ∀ label created, Owned env who used headerAad kek
      ⟨slotId, method.kind, label, created, params, wrap⟩ method
  rewrap : ∀ {method : UnlockMethod}, method ∈ used → ∀ {slot : Slot}, slot.method = method.kind →
    ∀ {draw kek headerAad ledger ledger' params wrap},
    (method.rewrapKek env slot draw kek headerAad).exec ledger = (.ok (params, wrap), ledger') →
    Owned env who used headerAad kek { slot with params := params, wrap := wrap } method
  payload : ∀ {key nonce aad plaintext ciphertext},
    env.aeadSeal key nonce aad plaintext = some ciphertext →
    env.aeadOpen key nonce aad ciphertext = some plaintext

variable {env who used} {headerAad : Bytes} {kek : MasterKek} {slot : Slot}
  {owner method : UnlockMethod}

theorem Owned.recovers_iff (h : Owned env who used headerAad kek slot owner) (hmethod : method ∈ used)
    {kek' : MasterKek} :
    method.recoverKek env slot headerAad = .ok kek' ↔ who method = who owner ∧ kek' = kek := by
  constructor
  · intro hrecover
    by_cases hwho : who method = who owner
    · obtain ⟨-, -, hown⟩ := h.own method hmethod hwho
      exact ⟨hwho, Except.ok.inj (hrecover.symm.trans hown)⟩
    · exact absurd hrecover (h.other method hmethod hwho kek')
  · rintro ⟨hwho, rfl⟩
    exact (h.own method hmethod hwho).2.2

theorem Owned.congr {owner' : UnlockMethod} (h : Owned env who used headerAad kek slot owner)
    (howner : owner' ∈ used) (hwho : who owner' = who owner) :
    Owned env who used headerAad kek slot owner' := by
  obtain ⟨hkind, -, -⟩ := h.own owner' howner hwho
  refine ⟨howner, h.kind.trans hkind.symm, ?_, ?_⟩
  · intro method hmethod hsame
    obtain ⟨hkind', havailable, hown⟩ := h.own method hmethod (hsame.trans hwho)
    exact ⟨hkind'.trans hkind.symm, havailable, hown⟩
  · intro method hmethod hne
    exact h.other method hmethod fun hsame => hne (hsame.trans hwho.symm)

theorem Owned.recoverSlot_self (h : Owned env who used headerAad kek slot owner) :
    recoverSlot env [owner] headerAad slot = some kek := by
  obtain ⟨-, havailable, hown⟩ := h.own owner h.inUse rfl
  simp [recoverSlot, MethodRegistry.forKind, h.kind, havailable, hown, Except.toOption]

end Ownership

/-! ### Runs -/

structure TableState where
  parsed : ParsedBundle
  owners : List UnlockMethod
  payload : CredBundle

def survivors (slots : List Slot) (owners : List UnlockMethod) (slotId : Nat) : List UnlockMethod :=
  ((slots.zip owners).filter fun entry => entry.1.slotId != slotId).map Prod.snd

/-- A bundle made by a seal and operations that succeeded, with the number of slots of the seal and
the number added since. A slot is added only to a table that is `allowed`. -/
inductive TableRun (env : DepositEnv) (used : Set UnlockMethod) (allowed : TableState → Prop) :
    Nat → Nat → TableState → Prop
  | sealed {draw : SealDraw} {payload : CredBundle} {specs : List SlotSpec} {ledger ledger' : Ledger}
      {file : Bytes} {parsed : ParsedBundle} (hspecs : ∀ spec ∈ specs, spec.method ∈ used)
      (hexec : (sealBundle env.toUnlockEnv draw payload specs).exec ledger = (.ok file, ledger'))
      (hdecode : decode env.json file = .ok parsed) :
      TableRun env used allowed specs.length 0 ⟨parsed, specs.map SlotSpec.method, payload⟩
  | addSlot {initial additions : Nat} {s : TableState} {draw : ResealDraw} {methods : MethodRegistry}
      {spec : SlotSpec} {ledger ledger' : Ledger} {file : Bytes} {parsed : ParsedBundle}
      (hrun : TableRun env used allowed initial additions s) (hallowed : allowed s)
      (hmethods : ∀ method ∈ methods, method ∈ used) (hspec : spec.method ∈ used)
      (hexec : (addSlot env.toUnlockEnv draw s.parsed methods spec).exec ledger = (.ok file, ledger'))
      (hdecode : decode env.json file = .ok parsed) :
      TableRun env used allowed initial (additions + 1) ⟨parsed, s.owners ++ [spec.method], s.payload⟩
  | removeSlot {initial additions : Nat} {s : TableState} {slotId : Nat} {file : Bytes}
      {parsed : ParsedBundle}
      (hrun : TableRun env used allowed initial additions s)
      (hremove : removeSlot env.toUnlockEnv s.parsed slotId = .ok file)
      (hdecode : decode env.json file = .ok parsed) :
      TableRun env used allowed initial additions
        ⟨parsed, survivors s.parsed.body.slots s.owners slotId, s.payload⟩
  | resealPayload {initial additions : Nat} {s : TableState} {draw : ResealDraw} {methods : MethodRegistry}
      {payload : CredBundle} {ledger ledger' : Ledger} {file : Bytes} {parsed : ParsedBundle}
      (hrun : TableRun env used allowed initial additions s) (hmethods : ∀ method ∈ methods, method ∈ used)
      (hexec : (resealPayload env.toUnlockEnv draw s.parsed methods payload).exec ledger =
        (.ok file, ledger'))
      (hdecode : decode env.json file = .ok parsed) :
      TableRun env used allowed initial additions ⟨parsed, s.owners, payload⟩
  | bumpEpoch {initial additions : Nat} {s : TableState} {draw : ResealDraw} {methods : MethodRegistry}
      {payload : CredBundle} {deposits : List DepositRecord} {ledger ledger' : Ledger} {file : Bytes}
      {parsed : ParsedBundle} (hrun : TableRun env used allowed initial additions s)
      (hmethods : ∀ method ∈ methods, method ∈ used)
      (hexec : (resealPayloadBumpEpochWithDeposits env.toUnlockEnv draw s.parsed methods payload
        deposits).exec ledger = (.ok file, ledger'))
      (hdecode : decode env.json file = .ok parsed) :
      TableRun env used allowed initial additions ⟨parsed, s.owners, payload⟩
  | promote {initial additions : Nat} {s : TableState} {draw : ResealDraw} {methods : MethodRegistry}
      {backendFilter contributorFilter : List String} {ledger ledger' : Ledger} {file : Bytes}
      {reviews : List DepositReview} {parsed : ParsedBundle}
      (hrun : TableRun env used allowed initial additions s) (hmethods : ∀ method ∈ methods, method ∈ used)
      (hexec : (promoteDeposits env draw s.parsed methods backendFilter contributorFilter).exec ledger =
        (.ok (file, reviews), ledger'))
      (hdecode : decode env.json file = .ok parsed) :
      TableRun env used allowed initial additions ⟨parsed, s.owners,
        promotedPayload s.payload (promotedOf env s.parsed s.payload backendFilter contributorFilter)⟩

/-! ### The invariant -/

section Invariant

variable {ι : Type} {env : DepositEnv} {who : UnlockMethod → ι} {used : Set UnlockMethod}

def Keyed (env : DepositEnv) (who : UnlockMethod → ι) (used : Set UnlockMethod) (kek : MasterKek)
    (s : TableState) : Prop :=
  List.Forall₂ (Owned env.toUnlockEnv who used s.parsed.headerAad kek) s.parsed.body.slots s.owners ∧
    decryptPayload env.toUnlockEnv kek s.parsed.headerAad s.parsed.body.payload = .ok s.payload

structure Intact (env : DepositEnv) (who : UnlockMethod → ι) (used : Set UnlockMethod)
    (s : TableState) : Prop where
  unique : (s.parsed.body.slots.map Slot.slotId).Nodup
  nonempty : s.parsed.body.slots ≠ []
  keyed : ∃ kek, Keyed env who used kek s

variable {kek : MasterKek} {s : TableState} {slot : Slot} {methods : MethodRegistry}
  {headerAad file : Bytes} {payload : CredBundle} {specs : List SlotSpec} {index : Nat}
  {ledger ledger' : Ledger} {slots : List Slot} {parsed : ParsedBundle} {draw : ResealDraw}

theorem Keyed.owner (h : Keyed env who used kek s) (hslot : slot ∈ s.parsed.body.slots) :
    ∃ owner ∈ s.owners, Owned env.toUnlockEnv who used s.parsed.headerAad kek slot owner :=
  exists_right_of_forall₂ h.1 hslot

theorem Keyed.recoverAny_eq {kek' : MasterKek} (h : Keyed env who used kek s)
    (hmethods : ∀ method ∈ methods, method ∈ used)
    (hrecover : recoverAny env.toUnlockEnv s.parsed methods = .ok kek') : kek' = kek := by
  obtain ⟨_, hslot, method, hmethod, -, hkek⟩ := recoverAny_ok hrecover
  obtain ⟨owner, -, howned⟩ := h.owner hslot
  exact ((howned.recovers_iff (hmethods method hmethod)).mp hkek).2

theorem Keyed.openBundle_eq (h : Keyed env who used kek s)
    (hmethods : ∀ method ∈ methods, method ∈ used) {creds : CredBundle}
    (hopen : openBundle env.toUnlockEnv s.parsed methods = .ok creds) : creds = s.payload := by
  simp only [openBundle, bind_eq_ok] at hopen
  obtain ⟨_, hrecover, hdecrypt⟩ := hopen
  obtain rfl := h.recoverAny_eq hmethods hrecover
  exact Except.ok.inj (hdecrypt.symm.trans h.2)

/-! ### Removing -/

theorem forall₂_survivors {R : Slot → UnlockMethod → Prop} {owners : List UnlockMethod}
    (h : List.Forall₂ R slots owners) (slotId : Nat) :
    List.Forall₂ R (slots.filter fun slot => slot.slotId != slotId) (survivors slots owners slotId) := by
  induction h with
  | nil => exact .nil
  | @cons slot owner slots owners hrel _ ih =>
    unfold survivors at ih ⊢
    rw [zip_cons_cons]
    by_cases hid : slot.slotId = slotId
    · simpa [filter_cons, hid] using ih
    · have hkeep : (slot.slotId != slotId) = true := by simpa using hid
      simp only [filter_cons, hkeep, if_true, map_cons]
      exact .cons hrel ih

theorem removal_nonempty (hunique : (slots.map Slot.slotId).Nodup) (hmany : 1 < slots.length)
    (slotId : Nat) : (slots.filter fun slot => slot.slotId != slotId) ≠ [] := by
  intro hempty
  rw [filter_eq_nil_iff] at hempty
  have hsame : ∀ slot ∈ slots, slot.slotId = slotId := by
    intro slot hslot
    simpa using hempty slot hslot
  obtain ⟨first, second, rest, rfl⟩ : ∃ first second rest, slots = first :: second :: rest := by
    match slots, hmany with
    | first :: second :: rest, _ => exact ⟨first, second, rest, rfl⟩
  have hfirst := hsame first (by simp)
  have hsecond := hsame second (by simp)
  simp [hfirst, hsecond] at hunique

theorem Intact.removeSlot (h : Intact env who used s) {slotId : Nat}
    (hremove : Bundle.removeSlot env.toUnlockEnv s.parsed slotId = .ok file)
    (hdecode : decode env.json file = .ok parsed) :
    Intact env who used ⟨parsed, survivors s.parsed.body.slots s.owners slotId, s.payload⟩ := by
  obtain ⟨kek, hkeyed⟩ := h.keyed
  simp only [Bundle.removeSlot, eq_ok] at hremove
  obtain ⟨-, hmany, -, -, rfl⟩ := hremove
  obtain rfl := decode_encoded_ok hdecode
  refine ⟨?_, removal_nonempty h.unique hmany slotId, kek, forall₂_survivors hkeyed.1 slotId, hkeyed.2⟩
  exact h.unique.sublist (filter_sublist.map Slot.slotId)

/-! ### Sealing, adding and resealing -/

def SpareId (s : TableState) : Prop := ∀ slot ∈ s.parsed.body.slots, slot.slotId < u32Max

theorem lt_nextSlotId (h : ∀ slot ∈ slots, slot.slotId < u32Max) (hslot : slot ∈ slots) :
    slot.slotId < nextSlotId slots := by
  unfold nextSlotId
  cases hmax : (slots.map Slot.slotId).max? with
  | none =>
    rw [max?_eq_none_iff, map_eq_nil_iff] at hmax
    subst hmax
    cases hslot
  | some greatest =>
    have hle : slot.slotId ≤ greatest :=
      (max?_eq_some_iff.mp hmax).2 _ (mem_map_of_mem hslot)
    obtain ⟨top, htop, rfl⟩ := mem_map.mp (max?_eq_some_iff.mp hmax).1
    have hspare := h top htop
    show slot.slotId < min (top.slotId + 1) u32Max
    omega

section Lawful

variable (laws : OwnRecovery env.toUnlockEnv who used)

include laws

theorem encryptPayload_opens {nonce : FixedBytes 12} {ciphertext : Bytes}
    (h : env.aeadSeal kek nonce headerAad (env.json.payloadToVec payload) = some ciphertext) :
    decryptPayload env.toUnlockEnv kek headerAad ⟨nonce.bytes, ciphertext⟩ = .ok payload := by
  simp [decryptPayload, laws.payload h, env.json.payload_read]

theorem wrapSpecs_ok {draw : SealDraw} (hspecs : ∀ spec ∈ specs, spec.method ∈ used)
    (h : (wrapSpecs env.toUnlockEnv draw headerAad index specs).exec ledger = (.ok slots, ledger')) :
    slots.map Slot.slotId = range' index specs.length ∧
      List.Forall₂ (Owned env.toUnlockEnv who used headerAad draw.kek) slots
        (specs.map SlotSpec.method) := by
  induction specs generalizing index ledger ledger' slots with
  | nil =>
    obtain ⟨rfl, -⟩ := h
    exact ⟨rfl, .nil⟩
  | cons spec specs ih =>
    simp only [wrapSpecs, exec_ok] at h
    obtain ⟨_, _, ⟨-, rfl⟩, ⟨_, wrap⟩, _, hwrap, _, _, hrest, rfl, -⟩ := h
    obtain ⟨hspec, hspecs⟩ := forall_mem_cons.mp hspecs
    obtain ⟨hids, hrest⟩ := ih hspecs hrest
    have hhead := laws.wrap hspec hwrap
    exact ⟨congrArg (cons index) hids, .cons (hhead spec.label draw.now) hrest⟩

theorem Intact.sealed {draw : SealDraw}
    (hspecs : ∀ spec ∈ specs, spec.method ∈ used)
    (hexec : (sealBundle env.toUnlockEnv draw payload specs).exec ledger = (.ok file, ledger'))
    (hdecode : decode env.json file = .ok parsed) :
    Intact env who used ⟨parsed, specs.map SlotSpec.method, payload⟩ := by
  simp only [sealBundle, exec_ok, ensure_eq_ok] at hexec
  obtain ⟨_, _, ⟨hsome, rfl⟩, _, _, -, _, _, hpayload, slots, _, hslots, rfl, -⟩ := hexec
  obtain ⟨_, hseal, rfl, -⟩ := encryptPayload_ok hpayload
  obtain ⟨hids, howned⟩ := wrapSpecs_ok laws hspecs hslots
  obtain rfl := decode_encoded_ok hdecode
  refine ⟨?_, ?_, draw.kek, howned, encryptPayload_opens laws hseal⟩
  · show (slots.map Slot.slotId).Nodup
    rw [hids]
    exact nodup_range'
  · rintro rfl
    have hlength := howned.length_eq
    rw [length_nil, length_map] at hlength
    exact hsome (eq_nil_of_length_eq_zero hlength.symm)

theorem rewrapSlots_ok (hmethods : ∀ method ∈ methods, method ∈ used) {oldHeaderAad : Bytes}
    {owners : List UnlockMethod}
    (hslots : List.Forall₂ (Owned env.toUnlockEnv who used oldHeaderAad kek) slots owners)
    {rewrapped : List Slot}
    (h : (rewrapSlots env.toUnlockEnv draw methods oldHeaderAad headerAad kek index slots).exec ledger =
      (.ok rewrapped, ledger')) :
    rewrapped.map Slot.slotId = slots.map Slot.slotId ∧
      List.Forall₂ (Owned env.toUnlockEnv who used headerAad kek) rewrapped owners := by
  induction hslots generalizing index ledger ledger' rewrapped with
  | nil =>
    obtain ⟨rfl, -⟩ := h
    exact ⟨rfl, .nil⟩
  | @cons slot owner slots owners howned _ ih =>
    simp only [rewrapSlots, exec_ok, orErr_eq_ok] at h
    obtain ⟨method, _, ⟨hmatched, rfl⟩, ⟨_, _⟩, _, hwrap, _, _, hrest, rfl, -⟩ := h
    obtain ⟨hids, hrest⟩ := ih hrest
    have hfound := find?_some hmatched
    have hmethod : method ∈ used :=
      hmethods method (mem_of_mem_filter (mem_of_find?_eq_some hmatched))
    have hrecover : method.recoverKek env.toUnlockEnv slot oldHeaderAad = .ok kek := by
      cases hkek : method.recoverKek env.toUnlockEnv slot oldHeaderAad with
      | error e => simp [hkek, Except.toOption] at hfound
      | ok kek' =>
        obtain ⟨-, rfl⟩ : method.available env.toUnlockEnv = true ∧ kek' = kek := by
          simpa [hkek, Except.toOption] using hfound
        rfl
    obtain ⟨hwho, -⟩ := (howned.recovers_iff hmethod).mp hrecover
    obtain ⟨hkind, -, -⟩ := howned.own method hmethod hwho
    have hnew := laws.rewrap hmethod (howned.kind.trans hkind.symm) hwrap
    exact ⟨congrArg (cons slot.slotId) hids, .cons (hnew.congr howned.inUse hwho.symm) hrest⟩

section Operations

variable (h : Intact env who used s) (hmethods : ∀ method ∈ methods, method ∈ used)
  (hdecode : decode env.json file = .ok parsed)

include h hmethods hdecode

theorem Intact.addSlot (hspare : SpareId s) {spec : SlotSpec} (hspec : spec.method ∈ used)
    (hexec : (Bundle.addSlot env.toUnlockEnv draw s.parsed methods spec).exec ledger =
      (.ok file, ledger')) :
    Intact env who used ⟨parsed, s.owners ++ [spec.method], s.payload⟩ := by
  obtain ⟨_, hkeyed⟩ := h.keyed
  simp only [Bundle.addSlot, exec_ok] at hexec
  obtain ⟨kek', _, ⟨hrecover, rfl⟩, ⟨_, wrap⟩, _, hwrap, rfl, -⟩ := hexec
  obtain rfl := hkeyed.recoverAny_eq hmethods hrecover
  obtain rfl := decode_encoded_ok hdecode
  have hnew := laws.wrap hspec hwrap spec.label draw.now
  refine ⟨?_, ?_, kek', ?_, hkeyed.2⟩
  · show ((s.parsed.body.slots ++ [_]).map Slot.slotId).Nodup
    rw [map_append, map_singleton, nodup_append]
    refine ⟨h.unique, nodup_singleton _, ?_⟩
    intro id hid id' hid' heq
    obtain ⟨_, hslot, rfl⟩ := mem_map.mp hid
    have hfresh := lt_nextSlotId hspare hslot
    have hid' : id' = nextSlotId s.parsed.body.slots := mem_singleton.mp hid'
    omega
  · show s.parsed.body.slots ++ [_] ≠ []
    simp
  · exact rel_append hkeyed.1 (.cons hnew .nil)

theorem Intact.resealPayload
    (hexec : (Bundle.resealPayload env.toUnlockEnv draw s.parsed methods payload).exec ledger =
      (.ok file, ledger')) : Intact env who used ⟨parsed, s.owners, payload⟩ := by
  obtain ⟨_, hkeyed⟩ := h.keyed
  obtain ⟨kek', _, hrecover, hseal, rfl⟩ := resealPayload_ok hexec
  obtain rfl := hkeyed.recoverAny_eq hmethods hrecover
  obtain rfl := decode_encoded_ok hdecode
  exact ⟨h.unique, h.nonempty, kek', hkeyed.1, encryptPayload_opens laws hseal⟩

theorem Intact.bumpEpoch {deposits : List DepositRecord}
    (hexec : (resealPayloadBumpEpochWithDeposits env.toUnlockEnv draw s.parsed methods payload
      deposits).exec ledger = (.ok file, ledger')) :
    Intact env who used ⟨parsed, s.owners, payload⟩ := by
  obtain ⟨_, hkeyed⟩ := h.keyed
  simp only [resealPayloadBumpEpochWithDeposits, exec_ok, ensure_eq_ok] at hexec
  obtain ⟨_, _, ⟨-, rfl⟩, kek', _, ⟨hrecover, rfl⟩, _, _, hpayload, slots, _, hslots, rfl,
    -⟩ := hexec
  obtain rfl := hkeyed.recoverAny_eq hmethods hrecover
  obtain ⟨_, hseal, rfl, -⟩ := encryptPayload_ok hpayload
  obtain ⟨hids, howned⟩ := rewrapSlots_ok laws hmethods hkeyed.1 hslots
  obtain rfl := decode_encoded_ok hdecode
  refine ⟨?_, ?_, kek', howned, encryptPayload_opens laws hseal⟩
  · show (slots.map Slot.slotId).Nodup
    rw [hids]
    exact h.unique
  · rintro rfl
    exact h.nonempty (map_eq_nil_iff.mp hids.symm)

theorem Intact.promote {backendFilter contributorFilter : List String} {reviews : List DepositReview}
    (hexec : (promoteDeposits env draw s.parsed methods backendFilter contributorFilter).exec ledger =
      (.ok (file, reviews), ledger')) :
    Intact env who used ⟨parsed, s.owners,
      promotedPayload s.payload (promotedOf env s.parsed s.payload backendFilter contributorFilter)⟩ := by
  obtain ⟨_, hkeyed⟩ := h.keyed
  obtain ⟨creds, hopen⟩ : ∃ creds, openBundle env.toUnlockEnv s.parsed methods = .ok creds := by
    simp only [promoteDeposits, exec_ok] at hexec
    obtain ⟨creds, _, ⟨hopen, -⟩, -⟩ := hexec
    exact ⟨creds, hopen⟩
  obtain rfl := hkeyed.openBundle_eq hmethods hopen
  exact h.bumpEpoch laws hmethods hdecode (promoteDeposits_ok hopen hexec)

end Operations

theorem TableRun.intact {initial additions : Nat}
    (hrun : TableRun env used SpareId initial additions s) : Intact env who used s := by
  induction hrun with
  | sealed hspecs hexec hdecode => exact .sealed laws hspecs hexec hdecode
  | addSlot _ hspare hmethods hspec hexec hdecode ih =>
    exact ih.addSlot laws hmethods hdecode hspare hspec hexec
  | removeSlot _ hremove hdecode ih => exact ih.removeSlot hremove hdecode
  | resealPayload _ hmethods hexec hdecode ih => exact ih.resealPayload laws hmethods hdecode hexec
  | bumpEpoch _ hmethods hexec hdecode ih => exact ih.bumpEpoch laws hmethods hdecode hexec
  | promote _ hmethods hexec hdecode ih => exact ih.promote laws hmethods hdecode hexec

end Lawful

/-! ### What opens -/

theorem Keyed.open_alone (h : Keyed env who used kek s) {owner : UnlockMethod}
    (howned : Owned env.toUnlockEnv who used s.parsed.headerAad kek slot owner) :
    openBundle env.toUnlockEnv ⟨{ s.parsed.body with slots := [slot] }⟩ [owner] = .ok s.payload := by
  have hrecover : recoverAny env.toUnlockEnv ⟨{ s.parsed.body with slots := [slot] }⟩ [owner] =
      .ok kek := by
    show orErr ([slot].findSome? (recoverSlot env.toUnlockEnv [owner] s.parsed.headerAad)) _ = _
    simp [howned.recoverSlot_self]
  rw [openBundle, hrecover, ok_bind]
  exact h.2

theorem Keyed.open_among (h : Keyed env who used kek s) {owner : UnlockMethod}
    (hslot : slot ∈ s.parsed.body.slots)
    (howned : Owned env.toUnlockEnv who used s.parsed.headerAad kek slot owner) :
    openBundle env.toUnlockEnv s.parsed [owner] = .ok s.payload := by
  have hused : ∀ method ∈ [owner], method ∈ used := by
    intro method hmethod
    rw [mem_singleton.mp hmethod]
    exact howned.inUse
  cases hfound : s.parsed.body.slots.findSome?
      (recoverSlot env.toUnlockEnv [owner] s.parsed.headerAad) with
  | none =>
    have hnone := findSome?_eq_none_iff.mp hfound slot hslot
    rw [howned.recoverSlot_self] at hnone
    cases hnone
  | some kek' =>
    have hrecover : recoverAny env.toUnlockEnv s.parsed [owner] = .ok kek' := by
      rw [recoverAny, hfound]
      rfl
    rw [openBundle, hrecover, ok_bind, h.recoverAny_eq hused hrecover]
    exact h.2

theorem Keyed.open_none (h : Keyed env who used kek s) {method : UnlockMethod}
    (hmethod : method ∈ used) (hnone : ∀ owner ∈ s.owners, who owner ≠ who method)
    (creds : CredBundle) : openBundle env.toUnlockEnv s.parsed [method] ≠ .ok creds := by
  intro hopen
  simp only [openBundle, bind_eq_ok] at hopen
  obtain ⟨kek', hrecover, -⟩ := hopen
  obtain ⟨_, hslot, method', hmem, -, hkek⟩ := recoverAny_ok hrecover
  obtain rfl := mem_singleton.mp hmem
  obtain ⟨owner, howner, howned⟩ := h.owner hslot
  exact howned.other method' hmethod (hnone owner howner).symm kek' hkek

theorem slots_open_to_payload (laws : OwnRecovery env.toUnlockEnv who used) {initial additions : Nat}
    {s : TableState} (hrun : TableRun env used SpareId initial additions s) :
    (s.parsed.body.slots.map Slot.slotId).Nodup ∧ s.parsed.body.slots ≠ [] ∧
      s.owners.length = s.parsed.body.slots.length ∧
      (∀ slot owner, (slot, owner) ∈ s.parsed.body.slots.zip s.owners →
        openBundle env.toUnlockEnv ⟨{ s.parsed.body with slots := [slot] }⟩ [owner] = .ok s.payload ∧
        openBundle env.toUnlockEnv s.parsed [owner] = .ok s.payload) ∧
      ∀ method ∈ used, (∀ owner ∈ s.owners, who owner ≠ who method) →
        ∀ creds, openBundle env.toUnlockEnv s.parsed [method] ≠ .ok creds := by
  have hintact := hrun.intact laws
  obtain ⟨_, hkeyed⟩ := hintact.keyed
  refine ⟨hintact.unique, hintact.nonempty, hkeyed.1.length_eq.symm, ?_, ?_⟩
  · intro slot owner hmem
    have howned := forall₂_zip hkeyed.1 hmem
    exact ⟨hkeyed.open_alone howned, hkeyed.open_among (of_mem_zip hmem).1 howned⟩
  · intro method hmethod hnone creds
    exact hkeyed.open_none hmethod hnone creds

end Invariant

/-! ### A passphrase and an age identity -/

section Concrete

def phraseMethod : UnlockMethod := .passphrase [1] ⟨8, 1, 1⟩

def ageMethod : UnlockMethod := .ageYubikey "age1" [[1]]

def twoMethods : Set UnlockMethod := {phraseMethod, ageMethod}

theorem textUnlock_opens {key : FixedBytes 32} {nonce : FixedBytes 12} {aad plaintext ciphertext : Bytes}
    (h : textUnlock.aeadSeal key nonce aad plaintext = some ciphertext) :
    textUnlock.aeadOpen key nonce aad ciphertext = some plaintext := by
  obtain rfl : textOf (key, nonce, aad, plaintext) = ciphertext := Option.some.inj h
  exact boxOpen_textOf key nonce aad plaintext

variable {kek : MasterKek} {headerAad : Bytes} {ledger ledger' : Ledger}

theorem wrapPassphrase_recovered {secret : Bytes} {argon2 argon2' : Argon2Params} {draw : WrapDraw}
    {slotId : Nat} {params : MethodParams} {wrap : KekWrap}
    (h : (wrapPassphrase textUnlock secret argon2 draw kek headerAad slotId).exec ledger =
      (.ok (params, wrap), ledger')) (kind : MethodKind) (label : String) (created : Nat) :
    params = .passphrase draw.salt.bytes argon2 ∧
      (passphrase secret argon2').recoverKek textUnlock
        ⟨slotId, kind, label, created, params, wrap⟩ headerAad = .ok kek := by
  simp only [wrapPassphrase, wrapWithSlotKey, exec_ok, orErr_eq_ok, exec_record] at h
  obtain ⟨_, _, ⟨hkey, rfl⟩, _, _, ⟨_, _, ⟨hseal, rfl⟩, _, _, -, rfl, -⟩, ⟨rfl, rfl⟩, -⟩ := h
  refine ⟨rfl, ?_⟩
  simp [recoverKek, hkey, unwrapWithSlotKey, textUnlock_opens hseal]

theorem wrapAge_recovered {recipient : String} {draw : WrapDraw} {params : MethodParams}
    {wrap : KekWrap} (h : (wrapAge textUnlock recipient draw kek).exec ledger =
      (.ok (params, wrap), ledger')) (slotId : Nat) (kind : MethodKind) (label : String)
    (created : Nat) (headerAad : Bytes) :
    params = .ageYubikey recipient ∧
      ageMethod.recoverKek textUnlock ⟨slotId, kind, label, created, params, wrap⟩ headerAad =
        .ok kek := by
  simp only [wrapAge, exec_ok] at h
  obtain ⟨ciphertext, _, ⟨hencrypt, -⟩, ⟨rfl, rfl⟩, -⟩ := h
  obtain rfl : 1 :: textOf (recipient, kek.bytes) = ciphertext := Except.ok.inj hencrypt
  refine ⟨rfl, ?_⟩
  have hdecrypt : textUnlock.ageDecrypt [1] (1 :: textOf (recipient, kek.bytes)) =
      some (.ok kek.bytes) := by
    simp [textUnlock, readText_textOf]
  have hheader : textUnlock.ageHeader (1 :: textOf (recipient, kek.bytes)) = .ok () := rfl
  simp [ageMethod, recoverKek, recoverAge, hheader, hdecrypt]

theorem owned_phrase {slot : Slot} {salt : Bytes} {argon2 : Argon2Params}
    (hkind : slot.method = .passphrase) (hparams : slot.params = .passphrase salt argon2)
    (hrecover : phraseMethod.recoverKek textUnlock slot headerAad = .ok kek) :
    Owned textUnlock id twoMethods headerAad kek slot phraseMethod where
  inUse := .inl rfl
  kind := hkind
  own := by
    rintro method - rfl
    exact ⟨rfl, rfl, hrecover⟩
  other := by
    rintro method (rfl | rfl) hne _
    · exact absurd rfl hne
    · simp [ageMethod, recoverKek, recoverAge, hparams]

theorem owned_age {slot : Slot} {recipient : String} (hkind : slot.method = .ageYubikey)
    (hparams : slot.params = .ageYubikey recipient)
    (hrecover : ageMethod.recoverKek textUnlock slot headerAad = .ok kek) :
    Owned textUnlock id twoMethods headerAad kek slot ageMethod where
  inUse := .inr rfl
  kind := hkind
  own := by
    rintro method - rfl
    exact ⟨rfl, rfl, hrecover⟩
  other := by
    rintro method (rfl | rfl) hne _
    · simp [phraseMethod, recoverKek, hparams]
    · exact absurd rfl hne

theorem textUnlock_ownRecovery : OwnRecovery textUnlock id twoMethods where
  wrap := by
    rintro method (rfl | rfl) draw kek headerAad slotId ledger ledger' params wrap h label created
    · obtain ⟨hparams, hrecover⟩ := wrapPassphrase_recovered h .passphrase label created
      exact owned_phrase rfl hparams hrecover
    · obtain ⟨hparams, hrecover⟩ := wrapAge_recovered h slotId .ageYubikey label created headerAad
      exact owned_age rfl hparams hrecover
  rewrap := by
    rintro method (rfl | rfl) ⟨slotId, kind, label, created, params₀, _⟩ hkind draw kek headerAad ledger
      ledger' params wrap h
    · cases params₀ with
      | passphrase =>
        obtain ⟨hparams, hrecover⟩ := wrapPassphrase_recovered h kind label created
        exact owned_phrase hkind hparams hrecover
      | _ => cases congrArg Prod.fst h
    · cases params₀ with
      | ageYubikey =>
        obtain ⟨hparams, hrecover⟩ := wrapAge_recovered h slotId kind label created headerAad
        exact owned_age hkind hparams hrecover
      | _ => cases congrArg Prod.fst h
  payload := textUnlock_opens

def phraseSpec : SlotSpec := ⟨phraseMethod, "phrase"⟩

def tableDraw : SealDraw where
  kek := fill 32 1
  bundleId := fill 16 0
  nonce := fill 12 6
  wraps _ := ⟨fill 16 0, fill 12 5, fill 32 0, [], []⟩
  now := 0

theorem sealed_decodes {specs : List SlotSpec} {file : Bytes}
    (hspecs : ∀ spec ∈ specs, spec.method ∈ twoMethods)
    (hok : ((sealBundle textUnlock tableDraw ciBaseline specs).exec []).1 = .ok file) :
    ∃ parsed ledger', (sealBundle textUnlock tableDraw ciBaseline specs).exec [] = (.ok file, ledger') ∧
      decode jsonTexts file = .ok parsed ∧ checkBody jsonTexts parsed.body = .ok parsed ∧
      parsed.body.slots.map Slot.slotId = range' 0 specs.length := by
  have hunlock : textDeposits.toUnlockEnv = textUnlock := rfl
  obtain ⟨ledger', hexec⟩ := exec_of_fst_ok hok
  have h := hexec
  simp only [sealBundle, exec_ok] at h
  obtain ⟨_, _, -, _, _, -, sealedPayload, _, -, slots, _, hslots, rfl, -⟩ := h
  rw [← hunlock] at hslots
  obtain ⟨hids, -⟩ := wrapSpecs_ok textUnlock_ownRecovery hspecs hslots
  let header : Header := ⟨formatVersion, .v1, tableDraw.bundleId, tableDraw.now, 1⟩
  let parsed : ParsedBundle :=
    ⟨⟨jsonTexts.headerToVec header, header, slots, sealedPayload, []⟩⟩
  have hreads : checkBody jsonTexts parsed.body = .ok parsed :=
    checkBody_ok.mpr ⟨readText_textOf _, rfl, rfl, rfl⟩
  exact ⟨parsed, ledger', hexec, (decode_encoded _ _ _ _ _).trans hreads, hreads, hids⟩

def ageSpec : SlotSpec := ⟨ageMethod, "age"⟩

theorem recoverAny_sealed {specs : List SlotSpec} {method : UnlockMethod} {parsed : ParsedBundle}
    {file : Bytes} {ledger' : Ledger} (hmethod : method ∈ twoMethods)
    (hspecs : ∀ spec ∈ specs, spec.method = method)
    (hexec : (sealBundle textUnlock tableDraw ciBaseline specs).exec [] = (.ok file, ledger'))
    (hdecode : decode jsonTexts file = .ok parsed) :
    ∃ kek, recoverAny textUnlock parsed [method] = .ok kek := by
  have hintact : Intact textDeposits id twoMethods ⟨parsed, specs.map SlotSpec.method, ciBaseline⟩ :=
    .sealed textUnlock_ownRecovery (fun spec hspec => hspecs spec hspec ▸ hmethod) hexec hdecode
  obtain ⟨-, hnonempty, _, hkeyed⟩ := hintact
  obtain ⟨_, hslot⟩ := exists_mem_of_ne_nil _ hnonempty
  obtain ⟨owner, howner, howned⟩ := hkeyed.owner hslot
  obtain ⟨spec, hspec, rfl⟩ := mem_map.mp howner
  rw [hspecs spec hspec] at howned
  have hopen := hkeyed.open_among hslot howned
  simp only [openBundle, bind_eq_ok] at hopen
  obtain ⟨kek, hkek, -⟩ := hopen
  exact ⟨kek, hkek⟩

theorem exec_addSlot_phrase {parsed : ParsedBundle} {methods : MethodRegistry}
    (hkek : recoverAny textUnlock parsed methods = .ok kek) :
    ∃ slot ledger', slot.slotId = nextSlotId parsed.body.slots ∧
      (addSlot textUnlock ciDraw parsed methods phraseSpec).exec [] =
        (.ok (encodeWithDeposits jsonTexts parsed.body.header parsed.headerAad
          (parsed.body.slots ++ [slot]) parsed.body.payload parsed.body.deposits), ledger') := by
  refine ⟨⟨nextSlotId parsed.body.slots, .passphrase, "phrase", ciDraw.now,
    .passphrase (ciDraw.wraps 0).salt.bytes ⟨8, 1, 1⟩, ⟨(ciDraw.wraps 0).nonce.bytes,
      textOf (fill 32 2, (ciDraw.wraps 0).nonce,
        wrapAad parsed.headerAad (nextSlotId parsed.body.slots), kek.bytes)⟩⟩,
    [.wrapped (fill 32 2) (ciDraw.wraps 0).nonce parsed.headerAad
      (nextSlotId parsed.body.slots) kek], rfl, ?_⟩
  simp only [addSlot, exec_bind, exec_check, hkek]
  rfl

/-- Sealed for one method, opened to a second one and closed to the first. -/
theorem removed_age_opens_nothing :
    ∃ s, TableRun textDeposits twoMethods SpareId 1 1 s ∧
      openBundle textUnlock s.parsed [phraseMethod] = .ok ciBaseline ∧
      ∀ creds, openBundle textUnlock s.parsed [ageMethod] ≠ .ok creds := by
  have hspecs : ∀ spec ∈ [ageSpec], spec.method = ageMethod := by
    intro spec hspec
    rw [mem_singleton.mp hspec]
    rfl
  have hused : ∀ spec ∈ [ageSpec], spec.method ∈ twoMethods := fun spec hspec => .inr (hspecs spec hspec)
  obtain ⟨parsed, _, hexec, hdecode, hreads, hids⟩ := sealed_decodes hused rfl
  obtain ⟨kek, hkek⟩ := recoverAny_sealed (.inr rfl) hspecs hexec hdecode
  have hsealed : TableRun textDeposits twoMethods SpareId 1 0 ⟨parsed, [ageMethod], ciBaseline⟩ :=
    .sealed hused hexec hdecode
  obtain ⟨first, hslots⟩ : ∃ first, parsed.body.slots = [first] := by
    have hlength := congrArg length hids
    exact length_eq_one_iff.mp (by simpa using hlength)
  have hfirst : first.slotId = 0 := by simpa [hslots, range'] using hids
  have hspare : SpareId ⟨parsed, [ageMethod], ciBaseline⟩ := by
    intro slot hslot
    have hslot : slot = first := by simpa [hslots] using hslot
    rw [hslot, hfirst]
    decide
  obtain ⟨second, _, hid, hadd⟩ := exec_addSlot_phrase hkek
  have hsecond : second.slotId = 1 := by
    rw [hid, hslots, nextSlotId, map_singleton, hfirst]
    rfl
  obtain ⟨hheader, hversion, hsuite, -⟩ := checkBody_ok.mp hreads
  let added : ParsedBundle := ⟨{ parsed.body with slots := [first, second] }⟩
  have hadded : checkBody jsonTexts added.body = .ok added :=
    checkBody_ok.mpr ⟨hheader, hversion, hsuite, rfl⟩
  rw [hslots] at hadd
  have hgrown : TableRun textDeposits twoMethods SpareId 1 1
      ⟨added, [ageMethod, phraseMethod], ciBaseline⟩ :=
    hsealed.addSlot hspare (by simpa using .inr rfl) (.inl rfl) hadd
      ((decode_encoded _ _ _ _ _).trans hadded)
  let left : ParsedBundle := ⟨{ parsed.body with slots := [second] }⟩
  have hremove : removeSlot textUnlock added 0 = .ok (encodeWithDeposits jsonTexts parsed.body.header
      parsed.headerAad [second] parsed.body.payload parsed.body.deposits) := by
    simp [added, removeSlot, hfirst, hsecond, ensure]
    rfl
  have hleft : checkBody jsonTexts left.body = .ok left :=
    checkBody_ok.mpr ⟨hheader, hversion, hsuite, rfl⟩
  have howners : survivors added.body.slots [ageMethod, phraseMethod] 0 = [phraseMethod] := by
    simp [added, survivors, hfirst, hsecond]
  have hrun : TableRun textDeposits twoMethods SpareId 1 1 ⟨left, [phraseMethod], ciBaseline⟩ :=
    howners ▸ hgrown.removeSlot hremove ((decode_encoded _ _ _ _ _).trans hleft)
  obtain ⟨-, -, -, hopens, hnone⟩ := slots_open_to_payload textUnlock_ownRecovery hrun
  refine ⟨_, hrun, (hopens second phraseMethod mem_cons_self).2, ?_⟩
  apply hnone ageMethod (.inr rfl)
  intro owner howner
  rw [mem_singleton.mp howner]
  simp [ageMethod, phraseMethod]

/-! ### Running out of ids -/

structure Growing (greatest : Nat) (s : TableState) : Prop where
  reads : checkBody jsonTexts s.parsed.body = .ok s.parsed
  opens : ∃ kek, recoverAny textUnlock s.parsed [phraseMethod] = .ok kek
  top : (s.parsed.body.slots.map Slot.slotId).max? = some greatest
  fits : greatest ≤ u32Max

theorem growing_addSlot {greatest k : Nat} {s : TableState}
    (hrun : TableRun textDeposits twoMethods (fun _ => True) 3 k s) (h : Growing greatest s) :
    ∃ s', TableRun textDeposits twoMethods (fun _ => True) 3 (k + 1) s' ∧
      Growing (min (greatest + 1) u32Max) s' ∧
      s'.parsed.body.slots.map Slot.slotId =
        s.parsed.body.slots.map Slot.slotId ++ [min (greatest + 1) u32Max] := by
  obtain ⟨kek, hkek⟩ := h.opens
  obtain ⟨slot, _, hid, hexec⟩ := exec_addSlot_phrase hkek
  have hslotId : slot.slotId = min (greatest + 1) u32Max := by
    rw [hid, nextSlotId, h.top]
  obtain ⟨hheader, hversion, hsuite, -⟩ := checkBody_ok.mp h.reads
  let next : ParsedBundle := ⟨⟨s.parsed.headerAad, s.parsed.body.header, s.parsed.body.slots ++ [slot],
    s.parsed.body.payload, s.parsed.body.deposits⟩⟩
  have hreads : checkBody jsonTexts next.body = .ok next :=
    checkBody_ok.mpr ⟨hheader, hversion, hsuite, rfl⟩
  have hids : next.body.slots.map Slot.slotId =
      s.parsed.body.slots.map Slot.slotId ++ [min (greatest + 1) u32Max] := by
    rw [map_append, map_singleton, hslotId]
  have htop : (next.body.slots.map Slot.slotId).max? = some (min (greatest + 1) u32Max) := by
    rw [hids, max?_eq_some_iff]
    refine ⟨mem_append_right _ (mem_singleton_self _), ?_⟩
    intro id hid
    obtain hold | hnew := mem_append.mp hid
    · have hle := (max?_eq_some_iff.mp h.top).2 id hold
      have hfits := h.fits
      omega
    · exact (mem_singleton.mp hnew).le
  refine ⟨⟨next, s.owners ++ [phraseMethod], s.payload⟩, ?_,
    ⟨hreads, ⟨kek, ?_⟩, htop, Nat.min_le_right _ _⟩, hids⟩
  · have hmethods : ∀ method ∈ [phraseMethod], method ∈ twoMethods := by
      intro method hmethod
      exact .inl (mem_singleton.mp hmethod)
    exact .addSlot hrun trivial hmethods (.inl rfl) hexec ((decode_encoded _ _ _ _ _).trans hreads)
  · rw [recoverAny, orErr_eq_ok] at hkek ⊢
    show (s.parsed.body.slots ++ [slot]).findSome? (recoverSlot textUnlock _ s.parsed.headerAad) = _
    rw [findSome?_append, hkek]
    rfl

theorem growing_run (k : Nat) :
    ∃ s, TableRun textDeposits twoMethods (fun _ => True) 3 k s ∧
      Growing (min (2 + k) u32Max) s := by
  induction k with
  | zero =>
    have hphrases : ∀ spec ∈ [phraseSpec, phraseSpec, phraseSpec], spec.method = phraseMethod := by
      intro spec hspec
      have hphrase : spec = phraseSpec := by simpa using hspec
      exact congrArg SlotSpec.method hphrase
    have hspecs : ∀ spec ∈ [phraseSpec, phraseSpec, phraseSpec], spec.method ∈ twoMethods :=
      fun spec hspec => .inl (hphrases spec hspec)
    obtain ⟨parsed, _, hexec, hdecode, hreads, hids⟩ := sealed_decodes hspecs rfl
    obtain ⟨kek', hkek⟩ := recoverAny_sealed (.inl rfl) hphrases hexec hdecode
    have hrun : TableRun textDeposits twoMethods (fun _ => True) 3 0
        ⟨parsed, [phraseSpec, phraseSpec, phraseSpec].map SlotSpec.method, ciBaseline⟩ :=
      .sealed hspecs hexec hdecode
    refine ⟨_, hrun, hreads, ⟨kek', hkek⟩, ?_, Nat.min_le_right _ _⟩
    rw [hids]
    rfl
  | succ k ih =>
    obtain ⟨s, hrun, hgrowing⟩ := ih
    obtain ⟨s', hrun', hgrowing', -⟩ := growing_addSlot hrun hgrowing
    have hnext : min (min (2 + k) u32Max + 1) u32Max = min (2 + (k + 1)) u32Max := by omega
    exact ⟨s', hrun', hnext ▸ hgrowing'⟩

theorem added_slots_share_id :
    OwnRecovery textUnlock id twoMethods ∧
      ∃ s, TableRun textDeposits twoMethods (fun _ => True) 3 (2 ^ 32 - 2) s ∧
        ¬ (s.parsed.body.slots.map Slot.slotId).Nodup := by
  obtain ⟨s, hrun, hgrowing⟩ := growing_run (2 ^ 32 - 3)
  obtain ⟨s', hrun', -, hids⟩ := growing_addSlot hrun hgrowing
  refine ⟨textUnlock_ownRecovery, s', hrun', ?_⟩
  have htop := (max?_eq_some_iff.mp hgrowing.top).1
  have hsame : min (min (2 + (2 ^ 32 - 3)) u32Max + 1) u32Max = min (2 + (2 ^ 32 - 3)) u32Max := by
    unfold u32Max
    omega
  rw [hids, nodup_append]
  rintro ⟨-, -, hdisjoint⟩
  exact hdisjoint _ htop _ (mem_singleton_self _) hsame.symm

end Concrete

end Basil.Bundle
