import Basil.Lib.Proc

/-!
# Procedures over durable storage

What a procedure may leave behind at any point is its crash condition, next to what it ensures
when it completes.
-/

namespace Basil

open Proc

abbrev Durable (σ : Type) := σ × Nat

namespace Durable

variable {σ ε α β : Type}

def write (stopped : ε) (f : σ → σ) : Proc (Durable σ) ε Unit :=
  ofFun fun (disk, writes) =>
    match writes with
    | 0 => (.error stopped, (disk, 0))
    | writes + 1 => (.ok (), (f disk, writes))

theorem write_ok {stopped : ε} {f : σ → σ} {s s' : Durable σ} {u : Unit}
    (h : (write stopped f).exec s = (.ok u, s')) : s'.1 = f s.1 := by
  obtain ⟨disk, _ | writes⟩ := s
  · cases h
  · cases h
    rfl

def read (f : σ → Except ε α) : Proc (Durable σ) ε α := ofFun fun s => (f s.1, s)

/-- From a disk with `P`, the procedure leaves `C` wherever it stops, and `Q` when it completes. -/
def Spec (P : σ → Prop) (p : Proc (Durable σ) ε α) (Q : α → σ → Prop) (C : σ → Prop) : Prop :=
  ∀ disk writes, P disk →
    C (p.exec (disk, writes)).2.1 ∧
      ∀ a, (p.exec (disk, writes)).1 = .ok a → Q a (p.exec (disk, writes)).2.1

variable {P : σ → Prop} {C : σ → Prop} {p : Proc (Durable σ) ε α} {Q : α → σ → Prop}
  {f : α → Proc (Durable σ) ε β} {R : β → σ → Prop}

theorem Spec.bind (hp : Spec P p Q C) (hf : ∀ a, Spec (Q a) (f a) R C) : Spec P (p >>= f) R C := by
  intro disk writes hP
  obtain ⟨hcrash, hok⟩ := hp disk writes hP
  rw [exec_bind]
  rcases hrun : p.exec (disk, writes) with ⟨_ | a, disk', writes'⟩
  · rw [hrun] at hcrash
    refine ⟨hcrash, ?_⟩
    intro b hb
    cases hb
  · rw [hrun] at hok
    exact hf a disk' writes' (hok a rfl)

variable {stopped : ε} {g : σ → σ}

theorem Spec.write (hP : ∀ disk, P disk → C disk) (hC : ∀ disk, P disk → C (g disk))
    {Q : Unit → σ → Prop} (hQ : ∀ disk, P disk → Q () (g disk)) :
    Spec P (Durable.write stopped g) Q C := by
  intro disk writes hdisk
  cases writes with
  | zero =>
    refine ⟨hP disk hdisk, ?_⟩
    intro a ha
    cases ha
  | succ writes =>
    refine ⟨hC disk hdisk, ?_⟩
    intro a _
    exact hQ disk hdisk

theorem Spec.imp {P' : σ → Prop} {Q' : α → σ → Prop} (hp : Spec P p Q C)
    (hP : ∀ disk, P' disk → P disk) (hQ : ∀ a disk, Q a disk → Q' a disk) : Spec P' p Q' C := by
  intro disk writes hdisk
  obtain ⟨hcrash, hok⟩ := hp disk writes (hP disk hdisk)
  exact ⟨hcrash, fun a ha => hQ a _ (hok a ha)⟩

theorem Spec.weaken {C' : σ → Prop} (hp : Spec P p Q C) (hC : ∀ disk, C disk → C' disk) :
    Spec P p Q C' := by
  intro disk writes hdisk
  obtain ⟨hcrash, hok⟩ := hp disk writes hdisk
  exact ⟨hC _ hcrash, hok⟩

theorem Spec.of_fact {φ : Prop} (hp : φ → Spec P p Q C) : Spec (fun disk => φ ∧ P disk) p Q C := by
  intro disk writes hdisk
  exact hp hdisk.1 disk writes hdisk.2

theorem Spec.attempt {ε' : Type} (hp : Spec P p Q C) :
    Spec P (attempt p : Proc (Durable σ) ε' (Except ε α))
      (fun result disk => (∀ a, result = .ok a → Q a disk) ∧ C disk) C := by
  intro disk writes hdisk
  obtain ⟨hcrash, hok⟩ := hp disk writes hdisk
  refine ⟨hcrash, ?_⟩
  intro result hresult
  cases hresult
  exact ⟨hok, hcrash⟩

/-! ### What a procedure does not touch -/

variable {τ : Type}

def Same (view : σ → τ) (s s' : Durable σ) : Prop := view s'.1 = view s.1

instance (view : σ → τ) : Std.Refl (Same view) := ⟨fun _ => rfl⟩

instance (view : σ → τ) : IsTrans (Durable σ) (Same view) :=
  ⟨fun _ _ _ hfirst hsecond => hsecond.trans hfirst⟩

theorem keeps_read {view : σ → τ} (g : σ → Except ε α) : Keeps (Same view) (Durable.read g) :=
  fun _ => rfl

theorem keeps_write {view : σ → τ} (h : ∀ disk, view (g disk) = view disk) :
    Keeps (Same view) (Durable.write stopped g) := by
  rintro ⟨disk, writes⟩
  cases writes with
  | zero => rfl
  | succ writes => exact h disk

/-! ### From a known part of the disk -/

def Known (view : σ → τ) (v : τ) (disk : σ) : Prop := view disk = v

variable {view : σ → τ} {v : τ} {K : τ → Prop}

theorem Spec.known_check (hv : K v) {x : Except ε α}
    (hf : ∀ a, x = .ok a → Spec (Known view v) (f a) R (fun disk => K (view disk))) :
    Spec (Known view v) (check x >>= f) R (fun disk => K (view disk)) := by
  intro disk writes hdisk
  cases x with
  | error e =>
    refine ⟨?_, nofun⟩
    show K (view disk)
    rw [show view disk = v from hdisk]
    exact hv
  | ok a => exact hf a rfl disk writes hdisk

theorem Spec.known_read (hv : K v) {g : σ → Except ε α} {x : Except ε α}
    (hg : ∀ disk, Known view v disk → g disk = x)
    (hf : ∀ a, x = .ok a → Spec (Known view v) (f a) R (fun disk => K (view disk))) :
    Spec (Known view v) (Durable.read g >>= f) R (fun disk => K (view disk)) := by
  intro disk writes hdisk
  have hread : (Durable.read g >>= f).exec (disk, writes) =
      (check x >>= f).exec (disk, writes) := by
    rw [exec_bind, exec_bind, ← hg disk hdisk]
    rfl
  rw [hread]
  exact Spec.known_check hv hf disk writes hdisk

theorem Spec.known_write {v' : τ} (hv : K v) (hv' : K v')
    (hg : ∀ disk, Known view v disk → view (g disk) = v') :
    Spec (Known view v) (Durable.write stopped g) (fun _ => Known view v')
      (fun disk => K (view disk)) := by
  refine Spec.write ?_ ?_ hg
  · intro disk hdisk
    rw [show view disk = v from hdisk]
    exact hv
  · intro disk hdisk
    rw [hg disk hdisk]
    exact hv'

theorem Spec.known_pure (hv : K v) {a : α} {φ : α → Prop} (ha : φ a) :
    Spec (Known view v) (Pure.pure a : Proc (Durable σ) ε α) (fun b disk => φ b ∧ Known view v disk)
      (fun disk => K (view disk)) := by
  intro disk writes hdisk
  refine ⟨?_, ?_⟩
  · show K (view disk)
    rw [show view disk = v from hdisk]
    exact hv
  · intro b hb
    cases hb
    exact ⟨ha, hdisk⟩

theorem Spec.known_keeps (hv : K v) (hp : Keeps (Same view) p) :
    Spec (Known view v) p (fun _ => Known view v) (fun disk => K (view disk)) := by
  intro disk writes hdisk
  have hsame : view (p.exec (disk, writes)).2.1 = v := (hp (disk, writes)).trans hdisk
  refine ⟨?_, fun _ _ => hsame⟩
  show K (view (p.exec (disk, writes)).2.1)
  rw [hsame]
  exact hv

theorem Spec.known_run (hv : K v) (hp : Keeps (Same view) p) :
    Spec (Known view v) p
      (fun a disk => (∃ s s', view s.1 = v ∧ p.exec s = (.ok a, s')) ∧ Known view v disk)
      (fun disk => K (view disk)) := by
  intro disk writes hdisk
  obtain ⟨hcrash, hok⟩ := Spec.known_keeps hv hp disk writes hdisk
  refine ⟨hcrash, ?_⟩
  intro a ha
  exact ⟨⟨(disk, writes), _, hdisk, Prod.ext ha rfl⟩, hok a ha⟩

end Durable

end Basil
