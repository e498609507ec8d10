import Basil.Lib.Check
import Mathlib.Order.Defs.Unbundled

/-!
# Fallible procedures over a store

A procedure may change the store and then fail: the changes made before the failure stay. A
property of the store that is a preorder and that every primitive call respects is respected by
the whole procedure (`Keeps`), whether it succeeds or fails half way.
-/

namespace Basil

abbrev Proc (σ ε : Type) := ExceptT ε (StateM σ)

namespace Proc

variable {σ ε ε' α β : Type}

def exec (p : Proc σ ε α) (s : σ) : Except ε α × σ := p.run s

def check (x : Except ε α) : Proc σ ε α := ExceptT.mk (pure x)

def fail (e : ε) : Proc σ ε α := check (.error e)

def mapErr (f : ε → ε') (p : Proc σ ε α) : Proc σ ε' α := ExceptT.mk (Except.mapError f <$> p.run)

/-- Run `p` and hand its result, success or error, to what follows. -/
def attempt (p : Proc σ ε α) : Proc σ ε' (Except ε α) := ExceptT.mk (Except.ok <$> p.run)

def ofFun (f : σ → Except ε α × σ) : Proc σ ε α := ExceptT.mk f

variable {p : Proc σ ε α} {f : α → Proc σ ε β} {s s' : σ} {a : α} {b : β} {e : ε}

@[simp] theorem exec_pure (a : α) (s : σ) : (pure a : Proc σ ε α).exec s = (.ok a, s) := rfl

@[simp] theorem exec_check (x : Except ε α) (s : σ) : (check x : Proc σ ε α).exec s = (x, s) := rfl

@[simp] theorem exec_fail (e : ε) (s : σ) : (fail e : Proc σ ε α).exec s = (.error e, s) := rfl

@[simp] theorem exec_ofFun (f : σ → Except ε α × σ) (s : σ) : (ofFun f).exec s = f s := rfl

theorem exec_bind (p : Proc σ ε α) (f : α → Proc σ ε β) (s : σ) :
    (p >>= f).exec s =
      match p.exec s with
      | (.ok a, s') => (f a).exec s'
      | (.error e, s') => (.error e, s') := by
  have hrun : (p >>= f).exec s = ExceptT.bindCont f (p.exec s).1 (p.exec s).2 := rfl
  rw [hrun]
  rcases p.exec s with ⟨_ | a, _⟩
  · rfl
  · rfl

theorem exec_mapErr (g : ε → ε') (p : Proc σ ε α) (s : σ) :
    (p.mapErr g).exec s = ((p.exec s).1.mapError g, (p.exec s).2) := rfl

theorem exec_attempt (p : Proc σ ε α) (s : σ) :
    (attempt p : Proc σ ε' (Except ε α)).exec s = (.ok (p.exec s).1, (p.exec s).2) := rfl

theorem exec_bind_ok :
    (p >>= f).exec s = (.ok b, s') ↔
      ∃ a s₁, p.exec s = (.ok a, s₁) ∧ (f a).exec s₁ = (.ok b, s') := by
  rw [exec_bind]
  rcases p.exec s with ⟨_ | a, s₁⟩
  · simp
  · constructor
    · intro h
      exact ⟨a, s₁, rfl, h⟩
    · rintro ⟨_, _, heq, h⟩
      cases heq
      exact h

theorem exec_bind_of_ok (h : p.exec s = (.ok a, s')) : (p >>= f).exec s = (f a).exec s' := by
  rw [exec_bind, h]

theorem exec_bind_of_error (h : p.exec s = (.error e, s')) :
    (p >>= f).exec s = (.error e, s') := by
  rw [exec_bind, h]

theorem exec_bind_step {r : Except ε β × σ} (h : p.exec s = (.ok a, s')) (hf : (f a).exec s' = r) :
    (p >>= f).exec s = r :=
  (exec_bind_of_ok h).trans hf

theorem check_ok_bind (a : α) (f : α → Proc σ ε β) : (check (.ok a) >>= f) = f a := rfl

theorem exec_check_step {x : Except ε α} {r : Except ε β × σ} (h : x = .ok a)
    (hf : (f a).exec s = r) : (check x >>= f).exec s = r := by
  rw [h, check_ok_bind, hf]

theorem snd_exec_bind_pure (p : Proc σ ε α) (g : α → β) (s : σ) :
    ((p >>= fun a => pure (g a)).exec s).2 = (p.exec s).2 := by
  rw [exec_bind]
  rcases p.exec s with ⟨_ | a, _⟩
  · rfl
  · rfl

@[simp] theorem exec_check_ok {x : Except ε α} :
    (check x : Proc σ ε α).exec s = (.ok a, s') ↔ x = .ok a ∧ s = s' := by
  simp

theorem exec_mapErr_ok {g : ε → ε'} :
    (p.mapErr g).exec s = (.ok a, s') ↔ p.exec s = (.ok a, s') := by
  rw [exec_mapErr]
  rcases p.exec s with ⟨_, _⟩
  simp

/-- The inversions of a procedure that ends in `ok`, as one set of rewriting rules. -/
theorem exec_ok :
    (∀ {σ ε α β : Type} {p : Proc σ ε α} {f : α → Proc σ ε β} {s s' : σ} {b : β},
      (p >>= f).exec s = (.ok b, s') ↔
        ∃ a s₁, p.exec s = (.ok a, s₁) ∧ (f a).exec s₁ = (.ok b, s')) ∧
    (∀ {σ ε α : Type} {x : Except ε α} {s s' : σ} {a : α},
      (check x : Proc σ ε α).exec s = (.ok a, s') ↔ x = .ok a ∧ s = s') ∧
    (∀ {σ ε α : Type} {a b : α} {s s' : σ},
      (pure a : Proc σ ε α).exec s = (.ok b, s') ↔ a = b ∧ s = s') ∧
    ∀ {σ ε ε' α : Type} {p : Proc σ ε α} {g : ε → ε'} {s s' : σ} {a : α},
      (p.mapErr g).exec s = (.ok a, s') ↔ p.exec s = (.ok a, s') :=
  ⟨exec_bind_ok, exec_check_ok, by simp, exec_mapErr_ok⟩

theorem exec_of_fst_ok (h : (p.exec s).1 = .ok a) : ∃ s', p.exec s = (.ok a, s') :=
  ⟨(p.exec s).2, Prod.ext h rfl⟩

theorem fst_exec_guard {c : Prop} [Decidable c] (h : (p.exec s).1 = .ok a) (e : ε) :
    ((check (ensure c e) >>= fun _ => p).exec s).1 = if c then .ok a else .error e := by
  by_cases hc : c
  · rw [ensure_pos hc, check_ok_bind, if_pos hc]
    exact h
  · rw [ensure_neg hc, exec_bind_of_error (exec_check _ _), if_neg hc]

/-! ### What a procedure keeps -/

/-- Whatever its result, the store it leaves is related to the one it found. -/
def Keeps (R : σ → σ → Prop) (p : Proc σ ε α) : Prop := ∀ s, R s (p.exec s).2

section Keeps

variable {R : σ → σ → Prop}

theorem Keeps.of_exec (hp : Keeps R p) {x : Except ε α} (h : p.exec s = (x, s')) : R s s' := by
  have hstep := hp s
  rwa [h] at hstep

theorem keeps_pure [Std.Refl R] (a : α) : Keeps R (pure a : Proc σ ε α) := fun s => refl_of R s

theorem keeps_check [Std.Refl R] (x : Except ε α) : Keeps R (check x : Proc σ ε α) :=
  fun s => refl_of R s

theorem keeps_fail [Std.Refl R] (e : ε) : Keeps R (fail e : Proc σ ε α) := keeps_check _

theorem keeps_bind [IsTrans σ R] (hp : Keeps R p) (hf : ∀ a, Keeps R (f a)) :
    Keeps R (p >>= f) := by
  intro s
  have hfirst := hp s
  rw [exec_bind]
  rcases hrun : p.exec s with ⟨_ | a, s₁⟩
  · rwa [hrun] at hfirst
  · rw [hrun] at hfirst
    exact trans_of R hfirst (hf a s₁)

theorem keeps_check_bind [Std.Refl R] {x : Except ε α} (hf : ∀ a, x = .ok a → Keeps R (f a)) :
    Keeps R (check x >>= f) := by
  intro s
  cases hx : x with
  | error e =>
    exact refl_of R s
  | ok a =>
    exact hf a hx s

theorem keeps_bind_of_ok [IsTrans σ R] (hp : Keeps R p)
    (hf : ∀ a s s', p.exec s = (.ok a, s') → Keeps R (f a)) : Keeps R (p >>= f) := by
  intro s
  have hfirst := hp s
  rw [exec_bind]
  rcases hrun : p.exec s with ⟨_ | a, s₁⟩
  · rwa [hrun] at hfirst
  · rw [hrun] at hfirst
    exact trans_of R hfirst (hf a s s₁ hrun s₁)

theorem keeps_attempt (hp : Keeps R p) : Keeps R (attempt p : Proc σ ε' (Except ε α)) :=
  fun s => hp s

theorem keeps_mapErr (g : ε → ε') (hp : Keeps R p) : Keeps R (p.mapErr g) := fun s => hp s

end Keeps

end Proc

end Basil
