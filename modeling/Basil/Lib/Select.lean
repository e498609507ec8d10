import Mathlib.Data.List.Pairwise
import Mathlib.Data.List.Perm.Basic

/-!
# Lists from which at most one item is selected

When no two items of a list are both selected, the first selected item does not depend on the
order of the list.
-/

namespace Basil

open List

variable {α β : Type}

variable {f : α → Option β} {l : List α}

theorem eq_of_nodup_filterMap (h : (l.filterMap f).Nodup) {x y : α} (hx : x ∈ l) (hy : y ∈ l)
    {b : β} (hfx : f x = some b) (hfy : f y = some b) : x = y := by
  by_contra hne
  have hsymm : Std.Symm fun x y => ∀ b, f x = some b → ∀ b', f y = some b' → b ≠ b' :=
    ⟨fun x y hxy b hb b' hb' heq => hxy b' hb' b hb heq.symm⟩
  exact (pairwise_filterMap.mp h).forall hx hy hne b hfx b hfy rfl

theorem filterMap_length_le_one (h : l.Pairwise fun a b => f a ≠ none → f b = none) :
    (l.filterMap f).length ≤ 1 := by
  induction l with
  | nil => simp
  | cons a l ih =>
    rw [pairwise_cons] at h
    cases hfa : f a with
    | none =>
      rw [filterMap_cons_none hfa]
      exact ih h.2
    | some b =>
      have hrest : l.filterMap f = [] := by
        rw [filterMap_eq_nil_iff]
        intro a' ha'
        exact h.1 a' ha' (by simp [hfa])
      rw [filterMap_cons_some hfa, hrest]
      simp

theorem filter_length_le_one {p : α → Bool} (h : l.Pairwise fun a b => p a = true → p b = false) :
    (l.filter p).length ≤ 1 := by
  have hmap : l.filterMap (Option.guard fun a => p a) = l.filter p :=
    congrFun (filterMap_eq_filter) l
  rw [← hmap]
  apply filterMap_length_le_one
  apply h.imp
  intro a b hab ha
  have hpa : p a = true := by simpa [Option.guard] using ha
  simp [Option.guard, hab hpa]

theorem eq_of_perm_of_length_le_one {l' : List α} (hperm : l.Perm l') (h : l.length ≤ 1) :
    l = l' := by
  match l, h with
  | [], _ => exact (nil_perm.mp hperm).symm
  | [a], _ => exact singleton_perm.mp hperm

theorem findSome?_congr_mem {g : α → Option β} (h : ∀ a ∈ l, f a = g a) :
    l.findSome? f = l.findSome? g := by
  rw [← head?_filterMap, ← head?_filterMap, filterMap_congr h]

theorem findSome?_eq_of_perm {l' : List α} (hperm : l.Perm l')
    (h : l.Pairwise fun a b => f a ≠ none → f b = none) : l.findSome? f = l'.findSome? f := by
  have hanswers : l.filterMap f = l'.filterMap f :=
    eq_of_perm_of_length_le_one (hperm.filterMap f) (filterMap_length_le_one h)
  rw [← head?_filterMap, ← head?_filterMap, hanswers]

end Basil
