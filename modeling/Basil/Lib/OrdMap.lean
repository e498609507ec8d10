import Mathlib.Order.Basic
import Mathlib.Data.List.Pairwise
import Mathlib.Data.List.Nodup
import Mathlib.Data.Finset.Card

/-!
# Ordered finite maps

An ordered map is the list of its entries in strictly increasing key order, the order in which it
is iterated.
-/

namespace Basil

open List

structure OrdMap (κ υ : Type) [LT κ] where
  entries : List (κ × υ)
  sorted : entries.Pairwise fun a b => a.1 < b.1

namespace OrdMap

variable {κ υ : Type} [LinearOrder κ]

def get? (m : OrdMap κ υ) (k : κ) : Option υ := m.entries.lookup k

def empty : OrdMap κ υ := ⟨[], List.Pairwise.nil⟩

def single (k : κ) (v : υ) : OrdMap κ υ := ⟨[(k, v)], List.pairwise_singleton _ _⟩

theorem nodup_keys (m : OrdMap κ υ) : (m.entries.map Prod.fst).Nodup := by
  rw [List.Nodup, pairwise_map]
  exact m.sorted.imp fun h => ne_of_lt h

variable {k : κ} {v : υ} {entries : List (κ × υ)}

theorem get?_eq_some_iff {m : OrdMap κ υ} : m.get? k = some v ↔ (k, v) ∈ m.entries := by
  obtain ⟨entries, sorted⟩ := m
  simp only [get?]
  induction entries with
  | nil => simp
  | cons e entries ih =>
    obtain ⟨k', v'⟩ := e
    rw [pairwise_cons] at sorted
    by_cases h : k = k'
    · subst h
      simp only [lookup_cons, BEq.rfl, Option.some.injEq, mem_cons, Prod.mk.injEq,
        true_and]
      constructor
      · rintro rfl; exact .inl rfl
      · rintro (rfl | hmem)
        · rfl
        · exact absurd (sorted.1 _ hmem) (lt_irrefl k)
    · have hne : (k == k') = false := by simpa using h
      simp only [lookup_cons, hne, mem_cons, Prod.mk.injEq, h, false_and, false_or]
      exact ih sorted.2

theorem lookup_eq_none_of_notMem (h : k ∉ entries.map Prod.fst) : entries.lookup k = none := by
  rw [lookup_eq_none_iff]
  intro e he
  have hne : k ≠ e.1 := fun heq => h (heq ▸ mem_map.mpr ⟨e, he, rfl⟩)
  simpa using hne

theorem lookup_filter (p : υ → Bool) (k : κ) (hdistinct : (entries.map Prod.fst).Nodup) :
    (entries.filter fun e => p e.2).lookup k = (entries.lookup k).filter p := by
  induction entries with
  | nil => rfl
  | cons e entries ih =>
    obtain ⟨k', v⟩ := e
    rw [map_cons, nodup_cons] at hdistinct
    have ih := ih hdistinct.2
    by_cases hk : k = k'
    · subst hk
      have hnone : entries.lookup k = none := lookup_eq_none_of_notMem hdistinct.1
      cases hp : p v with
      | true => simp [hp, Option.filter]
      | false => simp [hp, ih, hnone, Option.filter]
    · have hne : (k == k') = false := by simpa using hk
      cases hp : p v <;> simp [hp, hne, ih, lookup_cons]

theorem lookup_map_snd {ω : Type} (f : υ → ω) (k : κ) (entries : List (κ × υ)) :
    (entries.map (Prod.map id f)).lookup k = (entries.lookup k).map f := by
  induction entries with
  | nil => rfl
  | cons e entries ih =>
    obtain ⟨k', _⟩ := e
    simp only [map_cons, Prod.map_apply, id_eq, lookup_cons, ih]
    cases k == k' <;> rfl

theorem map_get?_eq {ω : Type} {f : υ → ω} {m m' : OrdMap κ υ}
    (h : m.entries.map (Prod.map id f) = m'.entries.map (Prod.map id f)) (k : κ) :
    (m.get? k).map f = (m'.get? k).map f := by
  rw [get?, get?, ← lookup_map_snd, ← lookup_map_snd, h]

/-! ### Insertion -/

def insertEntry (k : κ) (v : υ) : List (κ × υ) → List (κ × υ)
  | [] => [(k, v)]
  | e :: entries =>
      if k < e.1 then (k, v) :: e :: entries
      else if k = e.1 then (k, v) :: entries
      else e :: insertEntry k v entries

theorem insertEntry_keys {e : κ × υ} (h : e ∈ insertEntry k v entries) : e.1 = k ∨ e ∈ entries := by
  induction entries with
  | nil =>
    left
    rw [mem_singleton.mp h]
  | cons first entries ih =>
    unfold insertEntry at h
    split at h
    · rcases mem_cons.mp h with rfl | hmem
      · exact .inl rfl
      · exact .inr hmem
    · split at h
      · rcases mem_cons.mp h with rfl | hmem
        · exact .inl rfl
        · exact .inr (mem_cons_of_mem _ hmem)
      · rcases mem_cons.mp h with rfl | hmem
        · exact .inr mem_cons_self
        · exact (ih hmem).imp_right (mem_cons_of_mem _)

theorem insertEntry_sorted (h : entries.Pairwise fun a b => a.1 < b.1) :
    (insertEntry k v entries).Pairwise fun a b => a.1 < b.1 := by
  induction entries with
  | nil => exact pairwise_singleton _ _
  | cons first entries ih =>
    obtain ⟨hfirst, hrest⟩ := pairwise_cons.mp h
    unfold insertEntry
    split
    · next hlt =>
      refine pairwise_cons.mpr ⟨?_, h⟩
      intro e hmem
      rcases mem_cons.mp hmem with rfl | hmem
      · exact hlt
      · exact hlt.trans (hfirst e hmem)
    · next hle =>
      split
      · next heq =>
        subst heq
        exact pairwise_cons.mpr ⟨hfirst, hrest⟩
      · next hne =>
        have hlt : first.1 < k := lt_of_le_of_ne (not_lt.mp hle) (Ne.symm hne)
        refine pairwise_cons.mpr ⟨?_, ih hrest⟩
        intro e hmem
        rcases insertEntry_keys hmem with hk | hmem
        · rw [hk]
          exact hlt
        · exact hfirst e hmem

def insert (m : OrdMap κ υ) (k : κ) (v : υ) : OrdMap κ υ :=
  ⟨insertEntry k v m.entries, insertEntry_sorted m.sorted⟩

theorem lookup_insertEntry (k k' : κ) (v : υ) (entries : List (κ × υ)) :
    (insertEntry k v entries).lookup k' = if k' = k then some v else entries.lookup k' := by
  by_cases h : k' = k
  · subst h
    rw [if_pos rfl]
    induction entries with
    | nil => simp [insertEntry]
    | cons first entries ih =>
      unfold insertEntry
      split
      · simp
      · split
        · simp
        · next hne =>
          have hfirst : (k' == first.1) = false := beq_eq_false_iff_ne.mpr hne
          rw [lookup_cons, hfirst]
          exact ih
  · rw [if_neg h]
    have hne : (k' == k) = false := beq_eq_false_iff_ne.mpr h
    induction entries with
    | nil => rw [insertEntry, lookup_cons, hne]
    | cons first entries ih =>
      unfold insertEntry
      split
      · rw [lookup_cons, hne]
      · split
        · next heq => rw [lookup_cons, lookup_cons, hne, ← heq, hne]
        · rw [lookup_cons, lookup_cons, ih]

theorem get?_insert (m : OrdMap κ υ) (k k' : κ) (v : υ) :
    (m.insert k v).get? k' = if k' = k then some v else m.get? k' :=
  lookup_insertEntry k k' v m.entries

/-! ### Inserting a list of entries -/

def insertAll (m : OrdMap κ υ) (entries : List (κ × υ)) : OrdMap κ υ :=
  entries.foldl (fun m e => m.insert e.1 e.2) m

def keys (m : OrdMap κ υ) : Finset κ := (m.entries.map Prod.fst).toFinset

theorem card_keys (m : OrdMap κ υ) : m.keys.card = m.entries.length := by
  rw [keys, toFinset_card_of_nodup m.nodup_keys, length_map]

theorem mem_keys {m : OrdMap κ υ} : k ∈ m.keys ↔ ∃ v, m.get? k = some v := by
  simp [keys, get?_eq_some_iff]

theorem keys_insert (m : OrdMap κ υ) (k : κ) (v : υ) :
    (m.insert k v).keys = Insert.insert k m.keys := by
  ext k'
  rw [Finset.mem_insert, mem_keys, mem_keys, get?_insert]
  by_cases h : k' = k
  · simp [h]
  · simp [h]

theorem keys_insertAll (m : OrdMap κ υ) (entries : List (κ × υ)) :
    (m.insertAll entries).keys = m.keys ∪ (entries.map Prod.fst).toFinset := by
  induction entries generalizing m with
  | nil => simp [insertAll]
  | cons e entries ih =>
    have hrest := ih (m.insert e.1 e.2)
    rw [keys_insert] at hrest
    rw [insertAll, foldl_cons, ← insertAll, hrest]
    simp [Finset.insert_union]

theorem get?_insertAll_of_notMem {m : OrdMap κ υ} (h : k ∉ entries.map Prod.fst) :
    (m.insertAll entries).get? k = m.get? k := by
  induction entries generalizing m with
  | nil => rfl
  | cons e entries ih =>
    rw [map_cons, mem_cons, not_or] at h
    rw [insertAll, foldl_cons, ← insertAll, ih h.2, get?_insert, if_neg h.1]

theorem get?_insertAll {m : OrdMap κ υ} (hnodup : (entries.map Prod.fst).Nodup)
    (h : (k, v) ∈ entries) : (m.insertAll entries).get? k = some v := by
  induction entries generalizing m with
  | nil => cases h
  | cons e entries ih =>
    obtain ⟨hfresh, hnodup⟩ := nodup_cons.mp hnodup
    rw [insertAll, foldl_cons, ← insertAll]
    rcases mem_cons.mp h with rfl | hmem
    · rw [get?_insertAll_of_notMem hfresh, get?_insert, if_pos rfl]
    · exact ih hnodup hmem

theorem length_insertAll_empty_iff :
    (insertAll empty entries).entries.length = entries.length ↔ (entries.map Prod.fst).Nodup := by
  rw [← card_keys, keys_insertAll, ← length_map (f := Prod.fst)]
  have hempty : (empty : OrdMap κ υ).keys = ∅ := rfl
  rw [hempty, Finset.empty_union]
  exact Multiset.toFinset_card_eq_card_iff_nodup

end OrdMap

end Basil
