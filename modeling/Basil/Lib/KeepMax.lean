import Basil.Lib.OrdMap
import Mathlib.Data.Prod.Lex
import Mathlib.Data.List.Induction

/-!
# One greatest value for each key

On a tie the last one wins.
-/

namespace Basil

open OrdMap List

variable {α κ ρ π : Type} [LinearOrder ρ] [LinearOrder π]

def GreatestBy (rank : α → ρ) (p : α → Prop) (a : α) : Prop := p a ∧ ∀ b, p b → rank b ≤ rank a

variable {key : α → κ} {rank : α → ρ} {pos : α → π}

def KeptFor (key : α → κ) (rank : α → ρ) (pos : α → π) (xs : List α) (k : κ) : Option α → Prop
  | none => ∀ a ∈ xs, key a ≠ k
  | some a => GreatestBy (fun b => toLex (rank b, pos b)) (fun b => b ∈ xs ∧ key b = k) a

variable {xs : List α} {k : κ}

theorem keptFor_last {x : α} {kept : Option α} (hlast : ∀ b ∈ xs, key b = key x → pos b < pos x)
    (h : KeptFor key rank pos xs (key x) kept) (hrank : ∀ current ∈ kept, rank current ≤ rank x) :
    KeptFor key rank pos (xs ++ [x]) (key x) (some x) := by
  refine ⟨by simp, ?_⟩
  rintro b ⟨hb, hkey⟩
  rcases mem_append.mp hb with hb | hb
  · cases kept with
    | none => exact absurd hkey (h b hb)
    | some current =>
      have hle := h.2 b ⟨hb, hkey⟩
      have hrank := hrank current rfl
      have hbefore : pos b < pos x := hlast b hb hkey
      rw [Prod.Lex.toLex_le_toLex] at hle ⊢
      have hb' : rank b ≤ rank x := by
        rcases hle with hlt | ⟨heq, -⟩
        · exact le_of_lt (lt_of_lt_of_le hlt hrank)
        · exact le_of_eq_of_le heq hrank
      rcases lt_or_eq_of_le hb' with hlt | heq
      · exact .inl hlt
      · exact .inr ⟨heq, le_of_lt hbefore⟩
  · rw [mem_singleton.mp hb]

theorem keptFor_unchanged {x : α} {kept : Option α} (h : KeptFor key rank pos xs k kept)
    (hx : key x = k → ∃ current ∈ kept, rank x < rank current) :
    KeptFor key rank pos (xs ++ [x]) k kept := by
  cases kept with
  | none =>
    intro a ha hkey
    rcases mem_append.mp ha with ha | ha
    · exact h a ha hkey
    · rw [mem_singleton.mp ha] at hkey
      obtain ⟨_, hnone, -⟩ := hx hkey
      cases hnone
  | some current =>
    obtain ⟨⟨hmem, hcurrent⟩, hgreatest⟩ := h
    refine ⟨⟨by simp [hmem], hcurrent⟩, ?_⟩
    rintro b ⟨hb, hkey⟩
    rcases mem_append.mp hb with hb | hb
    · exact hgreatest b ⟨hb, hkey⟩
    · rw [mem_singleton.mp hb] at hkey ⊢
      obtain ⟨_, hcur, hlt⟩ := hx hkey
      cases hcur
      rw [Prod.Lex.toLex_le_toLex]
      exact .inl hlt

/-! ### The pass -/

variable [LinearOrder κ]

def keepStep (key : α → κ) (rank : α → ρ) (kept : OrdMap κ α) (a : α) : OrdMap κ α :=
  if (kept.get? (key a)).all fun current => decide (rank current ≤ rank a) then
    kept.insert (key a) a
  else kept

def keepMax (key : α → κ) (rank : α → ρ) (xs : List α) : OrdMap κ α :=
  xs.foldl (keepStep key rank) empty

theorem keepMax_append_singleton (xs : List α) (x : α) :
    keepMax key rank (xs ++ [x]) = keepStep key rank (keepMax key rank xs) x := by
  simp [keepMax]

theorem get?_keepStep (kept : OrdMap κ α) (x : α) (k : κ) :
    (keepStep key rank kept x).get? k =
      if key x = k ∧ (∀ current ∈ kept.get? k, rank current ≤ rank x) then some x
      else kept.get? k := by
  unfold keepStep
  simp only [Option.all_eq_true, decide_eq_true_eq, Option.mem_def]
  by_cases hk : key x = k
  · subst hk
    by_cases hrank : ∀ current, kept.get? (key x) = some current → rank current ≤ rank x
    · rw [if_pos hrank, if_pos ⟨rfl, hrank⟩, get?_insert, if_pos rfl]
    · rw [if_neg hrank, if_neg fun h => hrank h.2]
  · rw [if_neg (c := key x = k ∧ _) fun h => hk h.1]
    split
    · rw [get?_insert, if_neg (Ne.symm hk)]
    · rfl

theorem keepMax_keptFor (k : κ) (hpos : xs.Pairwise fun a b => key a = key b → pos a < pos b) :
    KeptFor key rank pos xs k ((keepMax key rank xs).get? k) := by
  induction xs using reverseRecOn with
  | nil =>
    intro a ha
    cases ha
  | append_singleton xs x ih =>
    rw [pairwise_append] at hpos
    obtain ⟨hxs, -, hlast⟩ := hpos
    have hkept := ih hxs
    rw [keepMax_append_singleton, get?_keepStep]
    split
    · next hreplace =>
      obtain ⟨rfl, hrank⟩ := hreplace
      exact keptFor_last (fun b hb hkey => hlast b hb x (by simp) hkey) hkept hrank
    · next hkeep =>
      refine keptFor_unchanged hkept fun hkey => ?_
      by_contra hno
      apply hkeep
      refine ⟨hkey, fun current hcurrent => ?_⟩
      by_contra hlt
      exact hno ⟨current, hcurrent, not_le.mp hlt⟩

theorem keepMax_eq_some {a : α} (hpos : xs.Pairwise fun a b => key a = key b → pos a < pos b)
    (h : (keepMax key rank xs).get? k = some a) :
    GreatestBy (fun b => toLex (rank b, pos b)) (fun b => b ∈ xs ∧ key b = k) a := by
  have hkept : KeptFor key rank pos xs k _ := keepMax_keptFor k hpos
  rwa [h] at hkept

theorem keepMax_eq_none (hpos : xs.Pairwise fun a b => key a = key b → pos a < pos b)
    (h : (keepMax key rank xs).get? k = none) : ∀ a ∈ xs, key a ≠ k := by
  have hkept : KeptFor key rank pos xs k _ := keepMax_keptFor k hpos
  rwa [h] at hkept

/-! ### What the pass looks at -/

variable {β : Type}

theorem OrdMap.insertEntry_map (f : α → β) (k : κ) (v : α) (entries : List (κ × α)) :
    insertEntry k (f v) (entries.map (Prod.map id f)) =
      (insertEntry k v entries).map (Prod.map id f) := by
  induction entries with
  | nil => rfl
  | cons e entries ih =>
    simp only [map_cons, insertEntry, Prod.map_fst, id_eq]
    split
    · rfl
    · split
      · rfl
      · rw [map_cons, ih]

theorem keepMax_map (f : α → β) (key : β → κ) (rank : β → ρ) (xs : List α) :
    (keepMax key rank (xs.map f)).entries =
      (keepMax (key ∘ f) (rank ∘ f) xs).entries.map (Prod.map id f) := by
  induction xs using reverseRecOn with
  | nil => rfl
  | append_singleton xs x ih =>
    rw [map_append, map_cons, map_nil, keepMax_append_singleton,
      keepMax_append_singleton]
    have hget : (keepMax key rank (xs.map f)).get? (key (f x)) =
        ((keepMax (key ∘ f) (rank ∘ f) xs).get? (key (f x))).map f := by
      rw [get?, get?, ih, lookup_map_snd]
    unfold keepStep
    rw [hget, Option.all_map]
    simp only [Function.comp_apply]
    split
    · show insertEntry _ _ (keepMax key rank (xs.map f)).entries = _
      rw [ih, insertEntry_map]
      rfl
    · exact ih

end Basil
