import Mathlib.Data.List.Basic
import Mathlib.Tactic.Ring

/-! # Byte strings, fixed-length byte arrays and ciphers over them -/

namespace Basil

abbrev Bytes := List UInt8

structure FixedBytes (n : Nat) where
  bytes : Bytes
  length_eq : bytes.length = n
  deriving DecidableEq

namespace FixedBytes

variable {n : Nat}

def ofBytes? (n : Nat) (b : Bytes) : Option (FixedBytes n) :=
  if h : b.length = n then some ⟨b, h⟩ else none

def fill (n : Nat) (x : UInt8) : FixedBytes n := ⟨List.replicate n x, List.length_replicate⟩

@[ext] theorem ext {a b : FixedBytes n} (h : a.bytes = b.bytes) : a = b := by
  cases a; cases b; cases h; rfl

theorem ofBytes?_eq_some {b : Bytes} {a : FixedBytes n} :
    ofBytes? n b = some a ↔ b = a.bytes := by
  unfold ofBytes?
  constructor
  · intro h
    split at h
    · cases h; rfl
    · cases h
  · rintro rfl
    simp [a.length_eq]

@[simp] theorem ofBytes?_bytes (a : FixedBytes n) : ofBytes? n a.bytes = some a :=
  ofBytes?_eq_some.mpr rfl

theorem length_twice (a : FixedBytes 32) : (a.bytes ++ a.bytes).length = 64 := by
  simp [a.length_eq]

theorem length_sums (a b : FixedBytes 32) :
    (List.zipWith (· + ·) a.bytes b.bytes).length = 32 := by
  simp [a.length_eq, b.length_eq]

end FixedBytes

def beBytes (width n : Nat) : Bytes :=
  (List.range width).reverse.map fun i => UInt8.ofNat (n / 256 ^ i)

def beNat (b : Bytes) : Nat := b.foldl (fun n x => n * 256 + x.toNat) 0

theorem length_beBytes (width n : Nat) : (beBytes width n).length = width := by
  simp [beBytes]

theorem beBytes_succ (width n : Nat) :
    beBytes (width + 1) n = UInt8.ofNat (n / 256 ^ width) :: beBytes width n := by
  simp [beBytes, List.range_succ]

theorem beNat_cons (x : UInt8) (b : Bytes) : beNat (x :: b) = x.toNat * 256 ^ b.length + beNat b := by
  have hfrom : ∀ (b : Bytes) (n : Nat),
      b.foldl (fun n x => n * 256 + x.toNat) n = n * 256 ^ b.length + beNat b := by
    intro b
    induction b with
    | nil => simp [beNat]
    | cons y b ih =>
      intro n
      rw [beNat, List.foldl_cons, List.foldl_cons, ih, ih, List.length_cons, pow_succ]
      ring
  rw [beNat, List.foldl_cons, hfrom]
  simp

theorem beNat_beBytes (width n : Nat) : beNat (beBytes width n) = n % 256 ^ width := by
  induction width with
  | zero => simp [beBytes, beNat, Nat.mod_one]
  | succ width ih =>
    have hsplit : n % (256 ^ width * 256) = n % 256 ^ width + 256 ^ width * (n / 256 ^ width % 256) :=
      Nat.mod_mul
    have hbyte : (UInt8.ofNat (n / 256 ^ width)).toNat = n / 256 ^ width % 256 := UInt8.toNat_ofNat'
    rw [beBytes_succ, beNat_cons, ih, length_beBytes, hbyte, pow_succ, hsplit]
    ring

theorem beNat_lt (b : Bytes) : beNat b < 256 ^ b.length := by
  induction b with
  | nil => simp [beNat]
  | cons x b ih =>
    rw [beNat_cons, List.length_cons, pow_succ]
    have hx : x.toNat * 256 ^ b.length ≤ 255 * 256 ^ b.length :=
      Nat.mul_le_mul_right _ (Nat.le_of_lt_succ x.toNat_lt)
    omega

theorem compare_of_beNat_lt {a b : Bytes} (hlength : a.length = b.length) (h : beNat a < beNat b) :
    compare a b = .lt := by
  induction a generalizing b with
  | nil =>
    rw [List.eq_nil_of_length_eq_zero hlength.symm] at h
    cases h
  | cons x a ih =>
    cases b with
    | nil => cases hlength
    | cons y b =>
      have hrest : a.length = b.length := Nat.succ.inj hlength
      rw [beNat_cons, beNat_cons, hrest] at h
      rw [List.compare_cons_cons, Ordering.then_eq_lt]
      have hb := beNat_lt b
      rcases lt_trichotomy x.toNat y.toNat with hlt | heq | hgt
      · exact .inl (Std.compare_eq_lt.mpr (UInt8.lt_iff_toNat_lt.mpr hlt))
      · rw [heq] at h
        exact .inr ⟨Std.compare_eq_iff_eq.mpr (UInt8.toNat_inj.mp heq), ih hrest (by omega)⟩
      · have hmul : (y.toNat + 1) * 256 ^ b.length ≤ x.toNat * 256 ^ b.length :=
          Nat.mul_le_mul_right _ hgt
        rw [Nat.succ_mul] at hmul
        omega

/-- Two directions under one key, nonce and associated data: decryption gives back what was
encrypted, and a ciphertext is longer than its plaintext by exactly `overhead` bytes. -/
structure CipherCorrect (overhead : Nat) (encrypt decrypt : Bytes → Option Bytes) : Prop where
  decrypt_encrypt : ∀ {plaintext ciphertext}, encrypt plaintext = some ciphertext →
    decrypt ciphertext = some plaintext
  length_encrypt : ∀ {plaintext ciphertext}, encrypt plaintext = some ciphertext →
    ciphertext.length = plaintext.length + overhead

end Basil
