import Basil.Lib.Table

/-!
# Counting the values of a finite map by class

A map tallies `m` when it holds the numbers `Table.countBy cls m` and no zeros.
-/

namespace Basil.Table

open List

variable {κ υ γ : Type} [DecidableEq γ]

def countBy (cls : υ → γ) (m : Table κ υ) (c : γ) : Nat :=
  m.entries.countP fun e => decide (cls e.2 = c)

theorem size_eq_countBy (m : Table κ υ) : m.size = m.countBy (fun _ => ()) () := by
  simp [size, countBy]

theorem countBy_mapVal (cls : υ → γ) {f : κ → υ → υ} (hcls : ∀ k v, cls (f k v) = cls v)
    (m : Table κ υ) (c : γ) : (m.mapVal f).countBy cls c = m.countBy cls c := by
  simp [countBy, mapVal, Function.comp_def, Sigma.map, hcls]

section Update
variable [DecidableEq κ]

variable {m : Table κ υ} {k : κ}

theorem countBy_congr {cls : υ → γ} {n : Table κ υ} (h : ∀ k, m.lookup k = n.lookup k) (c : γ) :
    countBy cls m c = countBy cls n c := by
  have hperm : m.entries.Perm n.entries :=
    lookup_ext m.nodupKeys n.nodupKeys fun k v => by rw [← AList.lookup, h k, AList.lookup]
  exact hperm.countP_eq _

theorem countBy_insert (cls : υ → γ) (m : Table κ υ) (k : κ) (v : υ) (c : γ) :
    countBy cls (m.insert k v) c = countBy cls (m.erase k) c + if cls v = c then 1 else 0 := by
  have herase : (m.erase k).entries = kerase k m.entries := rfl
  simp [countBy, AList.entries_insert, herase, countP_cons]

theorem countBy_eq_erase (cls : υ → γ) {v : υ} (h : m.lookup k = some v) (c : γ) :
    countBy cls m c = countBy cls (m.erase k) c + if cls v = c then 1 else 0 := by
  have hmem := AList.mem_lookup_iff.mp h
  obtain ⟨w, before, after, -, hsplit, herased⟩ :=
    exists_of_kerase (mem_keys_of_mem hmem)
  have hw : w = v := by
    have hlookup : m.lookup k = some w := by
      refine AList.mem_lookup_iff.mpr ?_
      rw [hsplit]
      exact mem_append_right _ mem_cons_self
    rw [h] at hlookup
    exact (Option.some.inj hlookup).symm
  subst hw
  have hrest : (m.erase k).entries = before ++ after := herased
  rw [countBy, countBy, hrest, hsplit]
  simp only [countP_append, countP_cons, decide_eq_true_eq]
  omega

theorem erase_of_lookup_none (h : m.lookup k = none) : m.erase k = m := by
  apply AList.ext
  exact kerase_of_notMem_keys (AList.lookup_eq_none.mp h)

theorem size_insert (m : Table κ υ) (k : κ) (v : υ) : size (m.insert k v) = size (m.erase k) + 1 := by
  simp [size_eq_countBy, countBy_insert]

theorem size_eq_erase {v : υ} (h : m.lookup k = some v) : size m = size (m.erase k) + 1 := by
  simp [size_eq_countBy, countBy_eq_erase (fun _ => ()) h]

theorem size_erase_le (m : Table κ υ) (k : κ) : size (m.erase k) ≤ size m := by
  cases h : m.lookup k with
  | none => rw [erase_of_lookup_none h]
  | some v =>
    have hsize := size_eq_erase h
    omega

end Update

/-! ### Tallies -/

def increment (counts : Table γ Nat) (c : γ) : Table γ Nat :=
  counts.insert c ((counts.lookup c).getD 0 + 1)

def decrement (counts : Table γ Nat) (c : γ) : Table γ Nat :=
  match counts.lookup c with
  | none => counts
  | some count => if count - 1 = 0 then counts.erase c else counts.insert c (count - 1)

structure Tallies (cls : υ → γ) (counts : Table γ Nat) (m : Table κ υ) : Prop where
  count_eq : ∀ c, (counts.lookup c).getD 0 = m.countBy cls c
  no_zero : ∀ c, counts.lookup c ≠ some 0

theorem tallies_empty (cls : υ → γ) : Tallies cls ∅ (∅ : Table κ υ) :=
  ⟨fun _ => rfl, fun _ => nofun⟩

variable [DecidableEq κ] {cls : υ → γ} {counts : Table γ Nat} {m : Table κ υ} {k : κ} {v : υ}

theorem Tallies.insert (h : Tallies cls counts m) (hfree : m.lookup k = none) :
    Tallies cls (increment counts (cls v)) (m.insert k v) := by
  constructor
  · intro c
    have hcount := h.count_eq c
    rw [increment, lookup_insert_eq, countBy_insert, erase_of_lookup_none hfree]
    by_cases hc : c = cls v
    · subst hc
      simp [hcount]
    · simp [hc, hcount, Ne.symm hc]
  · intro c
    rw [increment, lookup_insert_eq]
    split
    · simp
    · exact h.no_zero c

theorem lookup_decrement (counts : Table γ Nat) (c c' : γ) :
    (decrement counts c).lookup c' =
      if c' = c then ((counts.lookup c).map (· - 1)).filter (· ≠ 0) else counts.lookup c' := by
  unfold decrement
  cases hcount : counts.lookup c with
  | none =>
    by_cases hc : c' = c
    · subst hc
      simp [hcount]
    · simp [hc]
  | some count =>
    by_cases hzero : count - 1 = 0
    · simp [hzero, lookup_erase_eq, Option.filter]
    · simp [hzero, lookup_insert_eq, Option.filter]

theorem Tallies.erase (h : Tallies cls counts m) (hk : m.lookup k = some v) :
    Tallies cls (decrement counts (cls v)) (m.erase k) := by
  constructor
  · intro c
    have hcount := h.count_eq c
    rw [countBy_eq_erase cls hk c] at hcount
    rw [lookup_decrement]
    by_cases hc : c = cls v
    · subst hc
      simp only [if_true] at hcount
      cases hstored : counts.lookup (cls v) with
      | none => simp [hstored] at hcount
      | some count =>
        simp only [hstored, Option.getD_some] at hcount
        by_cases hzero : count - 1 = 0
        · simp [hzero, Option.filter]
          omega
        · simp [hzero, Option.filter]
          omega
    · simpa [hc, Ne.symm hc] using hcount
  · intro c
    rw [lookup_decrement]
    split
    · intro hzero
      simp at hzero
    · exact h.no_zero c

end Basil.Table
