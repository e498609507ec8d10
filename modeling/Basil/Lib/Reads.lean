import Basil.Lib.Proc

/-!
# Readers

`Reads p w a` says what `p` does on any input that starts with `w`: it answers `a` and takes
exactly `w` off.
-/

namespace Basil

open List

abbrev Reader (τ ε : Type) := Proc (List τ) ε

section Sequence

variable {τ ε α β : Type}

def Reads (p : Reader τ ε α) (w : List τ) (a : α) : Prop :=
  ∀ rest, p.exec (w ++ rest) = (.ok a, rest)

variable {p : Reader τ ε α} {f : α → Reader τ ε β} {v w : List τ} {a : α} {b : β}

theorem Reads.exec (h : Reads p w a) : p.exec w = (.ok a, []) := by
  have hall := h []
  rwa [append_nil] at hall

theorem reads_pure (a : α) : Reads (pure a : Reader τ ε α) [] a := fun _ => rfl

variable {x : Except ε α}

theorem reads_check (h : x = .ok a) : Reads (Proc.check x : Reader τ ε α) [] a := by
  intro rest
  rw [Proc.exec_check, h]
  rfl

theorem Reads.bind (hp : Reads p v a) (hf : Reads (f a) w b) : Reads (p >>= f) (v ++ w) b := by
  intro rest
  rw [append_assoc, Proc.exec_bind_of_ok (hp _)]
  exact hf rest

theorem Reads.check_bind (hx : x = .ok a) (hf : Reads (f a) w b) : Reads (Proc.check x >>= f) w b :=
  (reads_check hx).bind hf

theorem Reads.map (g : α → β) (hp : Reads p w a) : Reads (p >>= fun a => pure (g a)) w (g a) := by
  have hpack : Reads (pure (g a) : Reader τ ε β) [] (g a) := reads_pure (g a)
  have hall := Reads.bind (f := fun a => pure (g a)) hp hpack
  rwa [append_nil] at hall

/-! ### What a reader can answer -/

/-- Whatever the input, an answer of `p` satisfies `Q`. -/
def Yields (p : Reader τ ε α) (Q : α → Prop) : Prop := ∀ s a s', p.exec s = (.ok a, s') → Q a

variable {P : α → Prop} {Q : β → Prop}

theorem Yields.fst (h : Yields p P) {s : List τ} (hok : (p.exec s).1 = .ok a) : P a :=
  h s a (p.exec s).2 (Prod.ext hok rfl)

theorem yields_any (p : Reader τ ε α) : Yields p fun _ => True := fun _ _ _ _ => trivial

theorem yields_pure (h : P a) : Yields (pure a : Reader τ ε α) P := by
  intro s b s' hexec
  cases hexec
  exact h

theorem yields_fail (e : ε) : Yields (Proc.fail e : Reader τ ε α) P := by
  intro s b s' hexec
  cases hexec

theorem yields_check (h : ∀ a, x = .ok a → P a) : Yields (Proc.check x : Reader τ ε α) P := by
  intro s b s' hexec
  rw [Proc.exec_check_ok] at hexec
  exact h b hexec.1

theorem Yields.bind (hp : Yields p P) (hf : ∀ a, P a → Yields (f a) Q) : Yields (p >>= f) Q := by
  intro s b s' hexec
  obtain ⟨a, s₁, hfirst, hsecond⟩ := Proc.exec_bind_ok.mp hexec
  exact hf a (hp s a s₁ hfirst) s₁ b s' hsecond

theorem Yields.after (hf : ∀ a, Yields (f a) Q) : Yields (p >>= f) Q :=
  (yields_any p).bind fun a _ => hf a

/-! ### A fixed number of items -/

def readMany (p : Reader τ ε α) : Nat → Reader τ ε (List α)
  | 0 => pure []
  | n + 1 => do
      let a ← p
      let as ← readMany p n
      return a :: as

theorem reads_many {write : α → List τ} {as : List α} (h : ∀ a ∈ as, Reads p (write a) a) :
    Reads (readMany p as.length) (as.flatMap write) as := by
  induction as with
  | nil => exact reads_pure []
  | cons a as ih =>
    have hhead := h a mem_cons_self
    have htail := ih fun b hb => h b (mem_cons_of_mem _ hb)
    exact Reads.bind hhead (htail.map (a :: ·))

end Sequence

/-! ### Labelled entries -/

section Entries

variable {τ ε κ σ : Type}

def readEntries (label : Reader τ ε κ) (order : Option κ → κ → Except ε Unit)
    (field : κ → σ → Reader τ ε σ) : Nat → Option κ → σ → Reader τ ε σ
  | 0, _, acc => pure acc
  | n + 1, prev, acc => do
      let l ← label
      Proc.check (order prev l)
      let acc ← field l acc
      readEntries label order field n (some l) acc

def Follows (order : Option κ → κ → Except ε Unit) : Option κ → List κ → Prop
  | _, [] => True
  | prev, l :: ls => order prev l = .ok () ∧ Follows order (some l) ls

def Fills (field : κ → σ → Reader τ ε σ) : List (κ × List τ) → σ → σ → Prop
  | [], acc, out => acc = out
  | (l, value) :: entries, acc, out =>
      ∃ mid, Reads (field l acc) value mid ∧ Fills field entries mid out

def writeEntries (write : κ → List τ) (entries : List (κ × List τ)) : List τ :=
  entries.flatMap fun entry => write entry.1 ++ entry.2

variable {label : Reader τ ε κ} {order : Option κ → κ → Except ε Unit}
  {field : κ → σ → Reader τ ε σ} {write : κ → List τ}

variable {acc out : σ} {l : κ} {α : Type}

theorem reads_entries {entries : List (κ × List τ)}
    (hlabel : ∀ l ∈ entries.map Prod.fst, Reads label (write l) l) {prev : Option κ}
    (horder : Follows order prev (entries.map Prod.fst)) (h : Fills field entries acc out) :
    Reads (readEntries label order field entries.length prev acc) (writeEntries write entries) out := by
  induction entries generalizing prev acc with
  | nil =>
    obtain rfl : acc = out := h
    exact reads_pure acc
  | cons entry entries ih =>
    obtain ⟨l, value⟩ := entry
    obtain ⟨_, hvalue, hrest⟩ := h
    obtain ⟨hcheck, horder⟩ := horder
    have hhead : Reads label (write l) l := hlabel l mem_cons_self
    have htail := ih (fun k hk => hlabel k (mem_cons_of_mem _ hk)) horder hrest
    show Reads _ ((write l ++ value) ++ writeEntries write entries) out
    rw [append_assoc]
    refine Reads.bind hhead (Reads.check_bind hcheck ?_)
    exact Reads.bind hvalue htail

theorem yields_entries {P : σ → Prop} (hfield : ∀ l acc, P acc → Yields (field l acc) P) {n : Nat}
    {prev : Option κ} (h : P acc) : Yields (readEntries label order field n prev acc) P := by
  induction n generalizing prev acc with
  | zero => exact yields_pure h
  | succ n ih => exact .after fun l => .after fun _ => (hfield l acc h).bind fun next hnext => ih hnext

theorem Fills.append {entries more : List (κ × List τ)} {mid : σ} (h : Fills field entries acc mid)
    (hmore : Fills field more mid out) : Fills field (entries ++ more) acc out := by
  induction entries generalizing acc with
  | nil =>
    cases h
    exact hmore
  | cons entry entries ih =>
    obtain ⟨next, hvalue, hrest⟩ := h
    exact ⟨next, hvalue, ih hrest⟩

theorem fills_single {value : List τ} (h : Reads (field l acc) value out) :
    Fills field [(l, value)] acc out := ⟨out, h, rfl⟩

def optEntry {α : Type} (l : κ) (value : α → List τ) (o : Option α) : List (κ × List τ) :=
  o.toList.map fun a => (l, value a)

theorem fills_optEntry (field : κ → σ → Reader τ ε σ) (l : κ) {value : α → List τ} {o : Option α}
    {g : Option α → σ} (hnone : g none = acc)
    (h : ∀ a ∈ o, Reads (field l acc) (value a) (g (some a))) :
    Fills field (optEntry l value o) acc (g o) := by
  cases o with
  | none => exact hnone.symm
  | some a => exact fills_single (h a rfl)

theorem forall_mem_optEntry {value : α → List τ} {o : Option α} {P : κ × List τ → Prop} :
    (∀ entry ∈ optEntry l value o, P entry) ↔ ∀ a ∈ o, P (l, value a) := by
  cases o <;> simp [optEntry]

theorem length_optEntry (l : κ) (value : α → List τ) (o : Option α) :
    (optEntry l value o).length = o.isSome.toNat := by
  cases o <;> rfl

@[simp] theorem writeEntries_nil : writeEntries write ([] : List (κ × List τ)) = [] := rfl

@[simp] theorem writeEntries_cons (l : κ) (value : List τ) (entries : List (κ × List τ)) :
    writeEntries write ((l, value) :: entries) = write l ++ (value ++ writeEntries write entries) :=
  append_assoc _ _ _

@[simp] theorem writeEntries_append (entries more : List (κ × List τ)) :
    writeEntries write (entries ++ more) = writeEntries write entries ++ writeEntries write more :=
  flatMap_append

theorem labels_optEntry (l : κ) (value : α → List τ) (o : Option α) :
    ((optEntry l value o).map Prod.fst).Sublist [l] := by
  cases o with
  | none => exact nil_sublist _
  | some a => exact List.Sublist.refl _

end Entries

end Basil
