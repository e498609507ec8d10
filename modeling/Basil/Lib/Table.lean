import Mathlib.Data.List.AList

/-!
# Finite maps

`Table κ υ` is Mathlib's association list with unique keys, at a constant value type.
-/

namespace Basil

open List

abbrev Table (κ : Type) (υ : Type) := AList (fun _ : κ => υ)

namespace Table

variable {κ υ : Type}

def size (m : Table κ υ) : Nat := m.entries.length

def retain (keep : κ → υ → Bool) (m : Table κ υ) : Table κ υ :=
  ⟨m.entries.filter fun e => keep e.1 e.2, m.nodupKeys.sublist List.filter_sublist⟩

def toPairs (m : Table κ υ) : List (κ × υ) := m.entries.map fun e => (e.1, e.2)

def mapVal (f : κ → υ → υ) (m : Table κ υ) : Table κ υ :=
  ⟨m.entries.map (.map id f), m.nodupKeys.map₂ f m.entries⟩

def modify [DecidableEq κ] (k : κ) (f : υ → υ) (m : Table κ υ) : Table κ υ :=
  m.mapVal fun k' v => if k' = k then f v else v

theorem nodup_toPairs (m : Table κ υ) : (m.toPairs.map Prod.fst).Nodup := by
  have hkeys : m.toPairs.map Prod.fst = m.entries.keys := by
    simp only [toPairs, map_map, keys]
    rfl
  rw [hkeys]
  exact m.nodupKeys

section DecidableEq
variable [DecidableEq κ]

@[simp] theorem lookup_retain (keep : κ → υ → Bool) (m : Table κ υ) (k : κ) :
    (retain keep m).lookup k = (m.lookup k).filter (keep k) := by
  apply Option.ext
  intro v
  change v ∈ (retain keep m).lookup k ↔ (m.lookup k).filter (keep k) = some v
  rw [AList.mem_lookup_iff, Option.filter_eq_some_iff, ← Option.mem_def, AList.mem_lookup_iff]
  simp [retain]

@[simp] theorem lookup_mapVal (f : κ → υ → υ) (m : Table κ υ) (k : κ) :
    (mapVal f m).lookup k = (m.lookup k).map (f k) :=
  dlookup_map₂ k

theorem lookup_modify (m : Table κ υ) (k k' : κ) (f : υ → υ) :
    (modify k f m).lookup k' = if k' = k then (m.lookup k').map f else m.lookup k' := by
  rw [modify, lookup_mapVal]
  by_cases hk : k' = k
  · simp [hk]
  · simp [hk]

theorem lookup_insert_eq (m : Table κ υ) (k k' : κ) (v : υ) :
    (m.insert k v).lookup k' = if k' = k then some v else m.lookup k' := by
  by_cases h : k' = k
  · subst h; simp
  · simp [h]

theorem lookup_erase_eq (m : Table κ υ) (k k' : κ) :
    (m.erase k).lookup k' = if k' = k then none else m.lookup k' := by
  by_cases h : k' = k
  · subst h; simp
  · simp [h, AList.lookup_erase_ne h]

theorem lookup_of_erase {m : Table κ υ} {k k' : κ} {v : υ} (h : (m.erase k).lookup k' = some v) :
    m.lookup k' = some v := by
  rw [lookup_erase_eq] at h
  split at h
  · cases h
  · exact h

theorem mem_toPairs {m : Table κ υ} {k : κ} {v : υ} : (k, v) ∈ m.toPairs ↔ m.lookup k = some v := by
  rw [← Option.mem_def, AList.mem_lookup_iff, toPairs, mem_map]
  constructor
  · rintro ⟨⟨_, _⟩, hmem, heq⟩
    cases heq
    exact hmem
  · exact fun hmem => ⟨⟨k, v⟩, hmem, rfl⟩

theorem lookup_foldl_insert {pairs : List (κ × υ)} {m : Table κ υ} {k : κ} {v : υ}
    (hkeys : (pairs.map Prod.fst).Nodup) :
    (pairs.foldl (fun m e => m.insert e.1 e.2) m).lookup k = some v ↔
      (k, v) ∈ pairs ∨ k ∉ pairs.map Prod.fst ∧ m.lookup k = some v := by
  induction pairs generalizing m with
  | nil => simp
  | cons e pairs ih =>
    obtain ⟨k', _⟩ := e
    rw [map_cons, nodup_cons] at hkeys
    rw [foldl_cons, ih hkeys.2, lookup_insert_eq]
    by_cases hk : k = k'
    · subst hk
      have hmem : (k, v) ∉ pairs := by
        intro h
        exact hkeys.1 (mem_map.mpr ⟨(k, v), h, rfl⟩)
      simp [hmem, hkeys.1, eq_comm]
    · simp [hk]

end DecidableEq

end Table

end Basil
