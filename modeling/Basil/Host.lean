import Basil.Deposit
import Basil.Lib.Crash

/-!
# What Basil keeps on disk

A file is replaced by writing a private temporary file and renaming it: one atomic write.
-/

namespace Basil

open Basil.Bundle Durable

structure EpochPair where
  pre : Nat
  post : Nat
  deriving DecidableEq

structure BundleTransitionBinding where
  bundleId : FixedBytes 16
  backendId : String
  preBundleB3 : FixedBytes 32
  postBundleB3 : FixedBytes 32
  epochs : EpochPair
  copied : Nat
  deriving DecidableEq

structure IntentMarker where
  candidateName : String
  candidateB3 : FixedBytes 32
  oldDbB3 : FixedBytes 32
  binding : BundleTransitionBinding
  createdUnix : Nat
  deriving DecidableEq

structure Host where
  bundle : Option Bytes
  epoch : Option Nat
  db : Option Bytes
  wal : Option Bytes
  tshm : Option Bytes
  staging : Option (Option Bytes)
  marker : Option IntentMarker
  ledger : Ledger

inductive KeystoreRekeyError where
  | rekeyInProgress (marker : String)
  | markerMissing (marker : String)
  | markerInvalid (detail : String)
  | bundleBindingInvalid (detail : String)
  | invalidPhase (detail : String)
  | candidateHashMismatch (detail : String)
  | recoveryUnrecoverable (detail : String)
  | verificationFailed (detail : String)
  | stagingExists
  | backend (detail : String)
  deriving DecidableEq

inductive CommandError where
  | message (text : String)
  | sealing (context : String) (error : SealError)
  | rekey (error : KeystoreRekeyError)
  | stopped
  deriving DecidableEq

abbrev Command (α : Type) := Proc (Durable Host) CommandError α

namespace Command

def readBundle : Command Bytes :=
  read fun host => orErr host.bundle (.message "sealed bundle is missing")

def readEpoch : Command (Option Nat) := read fun host => .ok host.epoch

def writeBundle (bytes : Bytes) : Command Unit :=
  write .stopped fun host => { host with bundle := some bytes }

def writeEpoch (epoch : Nat) : Command Unit :=
  write .stopped fun host => { host with epoch := some epoch }

def sealing {α : Type} (context : String) (p : Proc Ledger SealError α) : Command α :=
  Proc.ofFun fun (host, writes) =>
    ((p.exec host.ledger).1.mapError (.sealing context),
      ({ host with ledger := (p.exec host.ledger).2 }, writes))

def opened {α : Type} (context : String) (x : Except SealError α) : Command α :=
  Proc.check (x.mapError (.sealing context))

def ensureThat (c : Prop) [Decidable c] (text : String) : Command Unit :=
  Proc.check (ensure c (.message text))

/-! ### What a step of a command that succeeds says -/

variable {s s' : Durable Host} {context : String}

theorem exec_readBundle_ok {bytes : Bytes} :
    readBundle.exec s = (.ok bytes, s') ↔ s.1.bundle = some bytes ∧ s = s' := by
  show (orErr s.1.bundle _, s) = _ ↔ _
  rw [Prod.mk.injEq, orErr_eq_ok]

theorem exec_readEpoch_ok {seen : Option Nat} :
    readEpoch.exec s = (.ok seen, s') ↔ s.1.epoch = seen ∧ s = s' := by
  show (Except.ok s.1.epoch, s) = _ ↔ _
  rw [Prod.mk.injEq, Except.ok.injEq]

theorem exec_opened_ok {α : Type} {x : Except SealError α} {a : α} :
    (opened context x).exec s = (.ok a, s') ↔ x = .ok a ∧ s = s' := by
  show (x.mapError _, s) = _ ↔ _
  rw [Prod.mk.injEq, mapError_eq_ok]

theorem exec_sealing_ok {α : Type} {p : Proc Ledger SealError α} {a : α} :
    (sealing context p).exec s = (.ok a, s') ↔ ∃ ledger', p.exec s.1.ledger = (.ok a, ledger') ∧
      ({ s.1 with ledger := ledger' }, s.2) = s' := by
  show ((p.exec s.1.ledger).1.mapError _, ({ s.1 with ledger := (p.exec s.1.ledger).2 }, s.2)) = _ ↔ _
  rcases p.exec s.1.ledger with ⟨_ | _, ledger'⟩
  · simp [Except.mapError]
  · simp [Except.mapError]

theorem exec_ensureThat_ok {c : Prop} [Decidable c] {text : String} {u : Unit} :
    (ensureThat c text).exec s = (.ok u, s') ↔ c ∧ s = s' := by
  show (ensure c _, s) = _ ↔ _
  rw [Prod.mk.injEq, ensure_eq_ok]

/-! ### Steps from a known part of the host -/

variable {τ α β : Type} {view : Host → τ} {v : τ} {K : τ → Prop} {R : β → Host → Prop}

theorem spec_readBundle_of {bundle : Option Bytes}
    (hbundle : ∀ host, Known view v host → host.bundle = bundle) (hv : K v)
    {f : Bytes → Command β}
    (hf : ∀ bytes, bundle = some bytes →
      Spec (Known view v) (f bytes) R (fun host => K (view host))) :
    Spec (Known view v) (readBundle >>= f) R (fun host => K (view host)) := by
  refine Durable.Spec.known_read (x := orErr bundle (.message "sealed bundle is missing")) hv ?_ ?_
  · intro host hhost
    rw [hbundle host hhost]
  · intro bytes hbytes
    exact hf bytes (orErr_eq_ok.mp hbytes)

theorem spec_sealing (hview : ∀ host ledger, view { host with ledger := ledger } = view host)
    (hv : K v) {p : Proc Ledger SealError α} {f : α → Command β}
    (hf : ∀ a ledger ledger', p.exec ledger = (.ok a, ledger') →
      Spec (Known view v) (f a) R (fun host => K (view host))) :
    Spec (Known view v) (sealing context p >>= f) R (fun host => K (view host)) := by
  intro host writes hhost
  have hknown : view { host with ledger := (p.exec host.ledger).2 } = v := (hview host _).trans hhost
  rw [Proc.exec_bind]
  rcases hrun : p.exec host.ledger with ⟨e | a, ledger'⟩
  · have hexec : (sealing context p).exec (host, writes) =
        (.error (.sealing context e), ({ host with ledger := ledger' }, writes)) := by
      show ((p.exec host.ledger).1.mapError _, _) = _
      rw [hrun]
      rfl
    rw [hexec]
    rw [hrun] at hknown
    refine ⟨?_, nofun⟩
    show K (view { host with ledger := ledger' })
    rw [hknown]
    exact hv
  · have hexec : (sealing context p).exec (host, writes) =
        (.ok a, ({ host with ledger := ledger' }, writes)) := by
      show ((p.exec host.ledger).1.mapError _, _) = _
      rw [hrun]
      rfl
    rw [hexec]
    rw [hrun] at hknown
    exact hf a host.ledger ledger' hrun _ writes hknown

end Command

end Basil
