import Mathlib.Data.List.Basic

/-!
# Runs of a deterministic step function

A system is given by `step : σ → ι → σ × ο`: every source of nondeterminism (clock readings,
entropy, scheduling) is part of the input `ι`.
-/

namespace Basil.Trace

variable {σ ι ο : Type*}

def final (step : σ → ι → σ × ο) : σ → List ι → σ
  | s, [] => s
  | s, i :: is => final step (step s i).1 is

def events (step : σ → ι → σ × ο) : σ → List ι → List (ι × ο)
  | _, [] => []
  | s, i :: is => (i, (step s i).2) :: events step (step s i).1 is

variable (step : σ → ι → σ × ο)

@[simp] theorem final_nil (s : σ) : final step s [] = s := rfl

@[simp] theorem final_cons (s : σ) (i : ι) (is : List ι) :
    final step s (i :: is) = final step (step s i).1 is := rfl

@[simp] theorem events_nil (s : σ) : events step s [] = [] := rfl

@[simp] theorem events_cons (s : σ) (i : ι) (is : List ι) :
    events step s (i :: is) = (i, (step s i).2) :: events step (step s i).1 is := rfl

theorem final_append (s : σ) (is js : List ι) :
    final step s (is ++ js) = final step (final step s is) js := by
  induction is generalizing s with
  | nil => rfl
  | cons i is ih => exact ih _

theorem events_append (s : σ) (is js : List ι) :
    events step s (is ++ js) = events step s is ++ events step (final step s is) js := by
  induction is generalizing s with
  | nil => rfl
  | cons i is ih => simp [ih]

variable {step} {s : σ} {is : List ι} {P : σ → ι → Prop}

theorem events_eq_append {before after : List (ι × ο)} {e : ι × ο}
    (h : events step s is = before ++ e :: after) :
    ∃ past i, before = events step s past ∧ e = (i, (step (final step s past) i).2) := by
  induction is generalizing s before with
  | nil => simp at h
  | cons i is ih =>
    cases before with
    | nil =>
      rw [events_cons, List.nil_append, List.cons.injEq] at h
      exact ⟨[], i, rfl, h.1.symm⟩
    | cons b before =>
      rw [events_cons, List.cons_append, List.cons.injEq] at h
      obtain ⟨rfl, hrest⟩ := h
      obtain ⟨past, j, hbefore, he⟩ := ih hrest
      exact ⟨i :: past, j, by rw [events_cons, hbefore], he⟩

theorem invariant (Inv : σ → Prop) (hstep : ∀ s i, Inv s → Inv (step s i).1) (hinit : Inv s)
    (is : List ι) : Inv (final step s is) := by
  induction is generalizing s with
  | nil => exact hinit
  | cons i is ih => exact ih (hstep s i hinit)

theorem history (Inv : List (ι × ο) → σ → Prop)
    (hstep : ∀ h s i, Inv h s → Inv (h ++ [(i, (step s i).2)]) (step s i).1) (hinit : Inv [] s)
    (is : List ι) : Inv (events step s is) (final step s is) := by
  suffices H : ∀ (h : List (ι × ο)) (t : σ), Inv h t →
      Inv (h ++ events step t is) (final step t is) from H [] s hinit
  induction is with
  | nil => intro h t ht; simpa using ht
  | cons i is ih =>
    intro h t ht
    have hnext := ih _ _ (hstep h t i ht)
    simpa using hnext

def Along (step : σ → ι → σ × ο) (P : σ → ι → Prop) : σ → List ι → Prop
  | _, [] => True
  | s, i :: is => P s i ∧ Along step P (step s i).1 is

theorem along_iff :
    Along step P s is ↔ ∀ past i rest, is = past ++ i :: rest → P (final step s past) i := by
  induction is generalizing s with
  | nil => simp [Along]
  | cons j is ih =>
    constructor
    · intro h past i rest heq
      cases past with
      | nil =>
        cases heq
        exact h.1
      | cons k past =>
        cases heq
        exact ih.mp h.2 past i rest rfl
    · intro h
      refine ⟨h [] j is rfl, ih.mpr ?_⟩
      intro past i rest heq
      exact h (j :: past) i rest (by rw [heq, List.cons_append])

theorem along_append {js : List ι} :
    Along step P s (is ++ js) ↔ Along step P s is ∧ Along step P (final step s is) js := by
  induction is generalizing s with
  | nil => exact (and_iff_right trivial).symm
  | cons i is ih => exact (and_congr_right fun _ => ih).trans and_assoc.symm

theorem invariant_along (Inv : σ → Prop) (hstep : ∀ s i, P s i → Inv s → Inv (step s i).1)
    (hinit : Inv s) (halong : Along step P s is) : Inv (final step s is) := by
  induction is generalizing s with
  | nil => exact hinit
  | cons i is ih =>
    obtain ⟨hi, hrest⟩ := halong
    exact ih (hstep s i hi hinit) hrest

end Basil.Trace
