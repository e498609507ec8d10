import Mathlib.Data.List.Forall2

/-!
# Checked computations

`ensure` is a check that yields nothing, `orErr` unwraps an optional value; a chain that ends in
`ok` is taken apart with `bind_eq_ok`.
-/

namespace Basil

open List

variable {ε α β : Type}

def ensure (c : Prop) [Decidable c] (e : ε) : Except ε Unit :=
  if c then .ok () else .error e

def orErr (o : Option α) (e : ε) : Except ε α :=
  match o with
  | some a => .ok a
  | none => .error e

variable {c : Prop} {e : ε} {o : Option α} {a : α} {x : Except ε α} {f : α → Except ε β}
  {as : List α} {bs : List β}

@[simp] theorem ensure_eq_ok [Decidable c] {u : Unit} : ensure c e = .ok u ↔ c := by
  unfold ensure
  split <;> simp_all

@[simp] theorem ensure_eq_error [Decidable c] {e' : ε} : ensure c e = .error e' ↔ ¬ c ∧ e = e' := by
  unfold ensure
  split <;> simp_all

@[simp] theorem orErr_eq_ok : orErr o e = .ok a ↔ o = some a := by
  cases o <;> simp [orErr]

@[simp] theorem orErr_eq_error {e' : ε} : orErr o e = .error e' ↔ o = none ∧ e = e' := by
  cases o <;> simp [orErr]

theorem orErr_inj {o' : Option α} (h : orErr o e = orErr o' e) : o = o' := by
  cases o <;> cases o' <;> simp_all [orErr]

theorem ensure_pos [Decidable c] (h : c) (e : ε) : ensure c e = .ok () := if_pos h

theorem ensure_neg [Decidable c] (h : ¬ c) (e : ε) : ensure c e = .error e := if_neg h

theorem ensure_congr {d : Prop} [Decidable c] [Decidable d] (h : c ↔ d) (e : ε) :
    ensure c e = ensure d e := if_congr h rfl rfl

@[simp] theorem bind_eq_ok {b : β} : (x >>= f) = .ok b ↔ ∃ a, x = .ok a ∧ f a = .ok b := by
  cases x <;> simp [bind, Except.bind]

theorem bind_eq_error : (x >>= f) = .error e ↔ x = .error e ∨ ∃ a, x = .ok a ∧ f a = .error e := by
  cases x <;> simp [bind, Except.bind]

@[simp] theorem ok_bind (a : α) (f : α → Except ε β) : (Except.ok a >>= f) = f a := rfl

@[simp] theorem error_bind (e : ε) (f : α → Except ε β) :
    ((Except.error e : Except ε α) >>= f) = .error e := rfl

@[simp] theorem pure_eq_ok {b : α} : (pure a : Except ε α) = .ok b ↔ a = b := by
  simp [pure, Except.pure]

theorem isOk_iff : x.isOk = true ↔ ∃ a, x = .ok a := by
  cases x <;> simp [Except.isOk, Except.toBool]

@[simp] theorem map_eq_ok {f : α → β} {b : β} : (f <$> x) = .ok b ↔ ∃ a, x = .ok a ∧ f a = b := by
  cases x <;> simp [Functor.map, Except.map]

@[simp] theorem mapError_eq_ok {ε' : Type} {f : ε → ε'} : x.mapError f = .ok a ↔ x = .ok a := by
  cases x <;> simp [Except.mapError]

@[simp] theorem mapError_ok {ε' : Type} (a : α) (f : ε → ε') :
    (Except.ok a : Except ε α).mapError f = .ok a := rfl

/-- The inversions of a chain that ends in `ok`, as one set of rewriting rules. -/
theorem eq_ok :
    (∀ {ε α β : Type} {x : Except ε α} {f : α → Except ε β} {b : β},
      (x >>= f) = .ok b ↔ ∃ a, x = .ok a ∧ f a = .ok b) ∧
    (∀ {ε α : Type} {a b : α}, (pure a : Except ε α) = .ok b ↔ a = b) ∧
    (∀ {ε : Type} {c : Prop} [Decidable c] {e : ε} {u : Unit}, ensure c e = .ok u ↔ c) ∧
    (∀ {ε α : Type} {o : Option α} {e : ε} {a : α}, orErr o e = .ok a ↔ o = some a) ∧
    ∀ {ε ε' α : Type} {f : ε → ε'} {x : Except ε α} {a : α}, x.mapError f = .ok a ↔ x = .ok a :=
  ⟨bind_eq_ok, pure_eq_ok, ensure_eq_ok, orErr_eq_ok, mapError_eq_ok⟩

def collect (f : α → Except ε β) : List α → Except ε (List β)
  | [] => .ok []
  | a :: as => do
      let b ← f a
      let bs ← collect f as
      return b :: bs

theorem collect_eq_ok : collect f as = .ok bs ↔ List.Forall₂ (fun a b => f a = .ok b) as bs := by
  induction as generalizing bs with
  | nil =>
    simp only [collect, Except.ok.injEq, forall₂_nil_left_iff]
    exact eq_comm
  | cons a as ih =>
    simp only [collect, bind_eq_ok, pure_eq_ok, forall₂_cons_left_iff, ih]
    constructor
    · rintro ⟨b, hb, bs', hbs, rfl⟩
      exact ⟨b, bs', hb, hbs, rfl⟩
    · rintro ⟨b, bs', hb, hbs, rfl⟩
      exact ⟨b, hb, bs', hbs, rfl⟩

theorem collect_succeeds : (∃ bs, collect f as = .ok bs) ↔ ∀ a ∈ as, ∃ b, f a = .ok b := by
  induction as with
  | nil => simp [collect]
  | cons a as ih =>
    simp only [collect, bind_eq_ok, pure_eq_ok, mem_cons, forall_eq_or_imp, ← ih]
    constructor
    · rintro ⟨_, b, hb, bs, hbs, -⟩
      exact ⟨⟨b, hb⟩, bs, hbs⟩
    · rintro ⟨⟨b, hb⟩, bs, hbs⟩
      exact ⟨b :: bs, b, hb, bs, hbs, rfl⟩

theorem collect_unit {f : α → Except ε Unit} :
    (∃ units, collect f as = .ok units) ↔ ∀ a ∈ as, f a = .ok () := by
  rw [collect_succeeds]
  exact forall₂_congr fun _ _ => ⟨fun ⟨(), h⟩ => h, fun h => ⟨(), h⟩⟩

/-! ### Lists related item by item -/

theorem exists_mem_of_forall₂ {r : α → β → Prop} {P : α → Prop} {Q : β → Prop}
    (h : List.Forall₂ r as bs) (hPQ : ∀ a b, r a b → (P a ↔ Q b)) :
    (∃ a ∈ as, P a) ↔ ∃ b ∈ bs, Q b := by
  induction h with
  | nil => simp
  | cons hab _ ih => simp [ih, hPQ _ _ hab]

theorem exists_right_of_forall₂ {r : α → β → Prop} (h : List.Forall₂ r as bs) (ha : a ∈ as) :
    ∃ b ∈ bs, r a b := by
  induction h with
  | nil => cases ha
  | @cons a' b' as bs hab _ ih =>
    rcases mem_cons.mp ha with rfl | hmem
    · exact ⟨b', mem_cons_self, hab⟩
    · obtain ⟨b, hb, hr⟩ := ih hmem
      exact ⟨b, mem_cons_of_mem _ hb, hr⟩

theorem exists_forall₂ {r : α → β → Prop} (h : ∀ a ∈ as, ∃ b, r a b) :
    ∃ bs, List.Forall₂ r as bs := by
  induction as with
  | nil => exact ⟨[], .nil⟩
  | cons a as ih =>
    obtain ⟨⟨b, hb⟩, hrest⟩ := forall_mem_cons.mp h
    obtain ⟨bs, hbs⟩ := ih hrest
    exact ⟨b :: bs, .cons hb hbs⟩

end Basil
