import Basil.Lib.Bytes
import Basil.Lib.Machine
import Basil.Lib.Reads
import Mathlib.Tactic.IntervalCases

/-!
# CBOR items

`Canonical` is the deterministic form: shortest heads, definite lengths and integer labels in
strictly ascending order at every level.
-/

namespace Basil.Cbor

open List

/-! ### Heads -/

def initial (major info : Nat) : UInt8 := UInt8.ofNat (major * 32 + info)

def majorOf (b : UInt8) : Nat := b.toNat / 32

def infoOf (b : UInt8) : Nat := b.toNat % 32

variable {info n width : Nat}

theorem majorOf_initial {major : Nat} (hmajor : major < 8) (hinfo : info < 32) :
    majorOf (initial major info) = major := by
  have hbyte : (initial major info).toNat = (major * 32 + info) % 256 := UInt8.toNat_ofNat'
  unfold majorOf
  omega

theorem infoOf_initial {major : Nat} (hinfo : info < 32) : infoOf (initial major info) = info := by
  have hbyte : (initial major info).toNat = (major * 32 + info) % 256 := UInt8.toNat_ofNat'
  unfold infoOf
  omega

def head (major n : Nat) : Bytes :=
  if n < 24 then [initial major n]
  else if n < 2 ^ 8 then initial major 24 :: beBytes 1 n
  else if n < 2 ^ 16 then initial major 25 :: beBytes 2 n
  else if n < 2 ^ 32 then initial major 26 :: beBytes 4 n
  else initial major 27 :: beBytes 8 n

def Shortest (n info width : Nat) : Prop :=
  (info = n ∧ width = 0 ∧ n < 24) ∨ (info = 24 ∧ width = 1 ∧ 24 ≤ n ∧ n < 2 ^ 8) ∨
    (info = 25 ∧ width = 2 ∧ 2 ^ 8 ≤ n ∧ n < 2 ^ 16) ∨
    (info = 26 ∧ width = 4 ∧ 2 ^ 16 ≤ n ∧ n < 2 ^ 32) ∨
    (info = 27 ∧ width = 8 ∧ 2 ^ 32 ≤ n ∧ n < 2 ^ 64)

theorem head_shape (major : Nat) (h : n < 2 ^ 64) :
    ∃ info width, head major n = initial major info :: beBytes width n ∧ Shortest n info width := by
  unfold head Shortest
  split_ifs with h1 h2 h3 h4
  · exact ⟨n, 0, rfl, by omega⟩
  · exact ⟨24, 1, rfl, by omega⟩
  · exact ⟨25, 2, rfl, by omega⟩
  · exact ⟨26, 4, rfl, by omega⟩
  · exact ⟨27, 8, rfl, by omega⟩

def number (width : Nat) (input : Bytes) : Option (Nat × Bytes) :=
  if width ≤ input.length then some (beNat (input.take width), input.drop width) else none

theorem number_beBytes (h : n < 256 ^ width) (rest : Bytes) :
    number width (beBytes width n ++ rest) = some (n, rest) := by
  have hlength := length_beBytes width n
  have htake : (beBytes width n ++ rest).take width = beBytes width n := by
    rw [take_append_of_le_length hlength.ge, take_of_length_le hlength.le]
  have hdrop : (beBytes width n ++ rest).drop width = rest := by
    rw [drop_append_of_le_length hlength.ge, drop_of_length_le hlength.le, nil_append]
  have hle : width ≤ (beBytes width n ++ rest).length := by
    rw [length_append, hlength]
    omega
  rw [number, if_pos hle, htake, hdrop, beNat_beBytes, Nat.mod_eq_of_lt h]

def argument (info : Nat) (input : Bytes) : Option (Nat × Bytes) :=
  if info < 24 then some (info, input)
  else if info = 24 then number 1 input
  else if info = 25 then number 2 input
  else if info = 26 then number 4 input
  else if info = 27 then number 8 input
  else none

theorem argument_of_shortest (h : Shortest n info width) (rest : Bytes) :
    argument info (beBytes width n ++ rest) = some (n, rest) := by
  obtain ⟨rfl, rfl, hn⟩ | ⟨rfl, rfl, -, hn⟩ | ⟨rfl, rfl, -, hn⟩ | ⟨rfl, rfl, -, hn⟩ |
    ⟨rfl, rfl, -, hn⟩ := h
  · exact if_pos hn
  · exact number_beBytes (show n < 256 ^ 1 by omega) rest
  · exact number_beBytes (show n < 256 ^ 2 by omega) rest
  · exact number_beBytes (show n < 256 ^ 4 by omega) rest
  · exact number_beBytes (show n < 256 ^ 8 by omega) rest

theorem Shortest.info_lt (h : Shortest n info width) : info < 28 := by
  unfold Shortest at h
  omega

def slice (length : Nat) (input : Bytes) : Option (Bytes × Bytes) :=
  if length ≤ input.length then some (input.take length, input.drop length) else none

theorem slice_append (b rest : Bytes) : slice b.length (b ++ rest) = some (b, rest) := by
  simp [slice]

/-! ### Writing -/

def int (n : Int) : Bytes := if 0 ≤ n then head 0 n.toNat else head 1 (-1 - n).toNat

def bstr (b : Bytes) : Bytes := head 2 b.length ++ b

def textBytes (s : String) : Bytes := s.toUTF8.data.toList

def tstr (s : String) : Bytes := head 3 (textBytes s).length ++ textBytes s

def arrayHead (n : Nat) : Bytes := head 4 n

def mapHead (n : Nat) : Bytes := head 5 n

def tagHead (n : Nat) : Bytes := head 6 n

def null : Bytes := [0xf6]

/-! ### Reading -/

inductive Kind where
  | int
  | bytes
  | bytesIndef
  | string
  | stringIndef
  | array
  | arrayIndef
  | map
  | mapIndef
  | tag
  | float
  | null
  | other
  deriving DecidableEq

def sized (definite indefinite : Kind) (info : Nat) : Kind :=
  if info < 28 then definite else if info = 31 then indefinite else .other

def datatype : Bytes → Option Kind
  | [] => none
  | b :: rest =>
      match majorOf b with
      | 0 => some (if infoOf b < 28 then .int else .other)
      | 1 => if 24 ≤ infoOf b ∧ infoOf b < 28 ∧ rest = [] then none
          else some (if infoOf b < 28 then .int else .other)
      | 2 => some (sized .bytes .bytesIndef (infoOf b))
      | 3 => some (sized .string .stringIndef (infoOf b))
      | 4 => some (sized .array .arrayIndef (infoOf b))
      | 5 => some (sized .map .mapIndef (infoOf b))
      | 6 => some (if infoOf b < 28 then .tag else .other)
      | _ => some (if infoOf b = 22 then .null
          else if 25 ≤ infoOf b ∧ infoOf b < 28 then .float else .other)

def argumentOf (major : Nat) : Bytes → Option (Nat × Bytes)
  | [] => none
  | b :: rest => if majorOf b = major then argument (infoOf b) rest else none

def readI64 (input : Bytes) : Option (Int × Bytes) :=
  match argumentOf 0 input with
  | some (n, rest) => if n < 2 ^ 63 then some (n, rest) else none
  | none =>
      match argumentOf 1 input with
      | some (n, rest) => if n < 2 ^ 63 then some (-1 - n, rest) else none
      | none => none

def readBstr (input : Bytes) : Option (Bytes × Bytes) := do
  let (length, rest) ← argumentOf 2 input
  slice length rest

def readTstr (input : Bytes) : Option (String × Bytes) := do
  let (length, rest) ← argumentOf 3 input
  let (b, rest) ← slice length rest
  let s ← String.fromUTF8? ⟨b.toArray⟩
  return (s, rest)

def readLength (major : Nat) : Bytes → Option (Option Nat × Bytes)
  | [] => none
  | b :: rest =>
      if majorOf b ≠ major then none
      else if infoOf b = 31 then some (none, rest)
      else (argument (infoOf b) rest).map fun (n, rest) => (some n, rest)

def readTag (input : Bytes) : Option (Nat × Bytes) := argumentOf 6 input

def readNull : Bytes → Option (Unit × Bytes)
  | [] => none
  | b :: rest => if b = 0xf6 then some ((), rest) else none

/-! ### What was written is read back -/

section Laws

variable {major n : Nat} (rest : Bytes)

theorem argumentOf_head (hmajor : major < 8) (hn : n < 2 ^ 64) :
    argumentOf major (head major n ++ rest) = some (n, rest) := by
  obtain ⟨_, _, hhead, hshort⟩ := head_shape major hn
  have hinfo := hshort.info_lt
  rw [hhead, cons_append, argumentOf, majorOf_initial hmajor (by omega), if_pos rfl,
    infoOf_initial (by omega)]
  exact argument_of_shortest hshort rest

theorem argumentOf_head_ne {other : Nat} (hmajor : major < 8) (hn : n < 2 ^ 64) (hne : major ≠ other) :
    argumentOf other (head major n ++ rest) = none := by
  obtain ⟨_, _, hhead, hshort⟩ := head_shape major hn
  have hinfo := hshort.info_lt
  rw [hhead, cons_append, argumentOf, majorOf_initial hmajor (by omega), if_neg hne]

theorem readLength_head (hmajor : major < 8) (hn : n < 2 ^ 64) :
    readLength major (head major n ++ rest) = some (some n, rest) := by
  obtain ⟨_, _, hhead, hshort⟩ := head_shape major hn
  have hinfo := hshort.info_lt
  rw [hhead, cons_append, readLength, majorOf_initial hmajor (by omega), if_neg (not_not.mpr rfl),
    infoOf_initial (by omega), if_neg (by omega), argument_of_shortest hshort]
  rfl

theorem readI64_int {n : Int} (hmin : i64Min ≤ n) (hmax : n ≤ i64Max) :
    readI64 (int n ++ rest) = some (n, rest) := by
  unfold i64Min at hmin
  unfold i64Max at hmax
  unfold int readI64
  split_ifs with hsign
  · have hfits : n.toNat < 2 ^ 64 := by omega
    have hsmall : n.toNat < 2 ^ 63 := by omega
    have hvalue : (n.toNat : Int) = n := Int.toNat_of_nonneg hsign
    rw [argumentOf_head rest (by omega) hfits]
    simp only [hsmall, if_true, hvalue]
  · have hfits : (-1 - n).toNat < 2 ^ 64 := by omega
    have hsmall : (-1 - n).toNat < 2 ^ 63 := by omega
    have hvalue : (-1 : Int) - ((-1 - n).toNat : Int) = n := by omega
    rw [argumentOf_head_ne rest (by omega) hfits (by omega), argumentOf_head rest (by omega) hfits]
    simp only [hsmall, if_true, hvalue]

theorem readBstr_bstr {b : Bytes} (h : b.length < 2 ^ 64) :
    readBstr (bstr b ++ rest) = some (b, rest) := by
  rw [bstr, append_assoc, readBstr, argumentOf_head _ (by omega) h]
  exact slice_append b rest

theorem fromUTF8_textBytes (s : String) : String.fromUTF8? ⟨(textBytes s).toArray⟩ = some s := by
  exact dif_pos s.isValidUTF8

theorem readTstr_tstr {s : String} (h : (textBytes s).length < 2 ^ 64) :
    readTstr (tstr s ++ rest) = some (s, rest) := by
  rw [tstr, append_assoc, readTstr, argumentOf_head _ (by omega) h]
  simp [slice_append, fromUTF8_textBytes]

theorem readTag_tagHead (h : n < 2 ^ 64) : readTag (tagHead n ++ rest) = some (n, rest) :=
  argumentOf_head rest (by omega) h

theorem readNull_null : readNull (null ++ rest) = some ((), rest) := rfl

/-! ### Types of what was written -/

def headKind : Nat → Kind
  | 0 => .int
  | 1 => .int
  | 2 => .bytes
  | 3 => .string
  | 4 => .array
  | 5 => .map
  | _ => .tag

theorem datatype_head (hmajor : major < 7) (hn : n < 2 ^ 64) :
    datatype (head major n ++ rest) = some (headKind major) := by
  obtain ⟨info, width, hhead, hshort⟩ := head_shape major hn
  have hinfo := hshort.info_lt
  -- a wide head is followed by at least one byte
  have hwide : ¬ (24 ≤ info ∧ info < 28 ∧ beBytes width n ++ rest = []) := by
    rintro ⟨_, -, hempty⟩
    have hlength := congrArg length hempty
    rw [length_append, length_beBytes, length_nil] at hlength
    unfold Shortest at hshort
    omega
  rw [hhead, cons_append, datatype, majorOf_initial (by omega) (by omega),
    infoOf_initial (by omega)]
  interval_cases major <;> simp only [sized, headKind, if_pos hinfo, if_neg hwide]

theorem datatype_int {n : Int} (hmin : i64Min ≤ n) (hmax : n ≤ i64Max) :
    datatype (int n ++ rest) = some .int := by
  unfold i64Min at hmin
  unfold i64Max at hmax
  unfold int
  split_ifs with hsign
  · exact datatype_head rest (by omega) (by omega)
  · exact datatype_head rest (by omega) (by omega)

theorem datatype_bstr {b : Bytes} (h : b.length < 2 ^ 64) :
    datatype (bstr b ++ rest) = some .bytes := by
  rw [bstr, append_assoc]
  exact datatype_head _ (by omega) h

theorem datatype_tstr {s : String} (h : (textBytes s).length < 2 ^ 64) :
    datatype (tstr s ++ rest) = some .string := by
  rw [tstr, append_assoc]
  exact datatype_head _ (by omega) h

theorem datatype_null : datatype (null ++ rest) = some .null := rfl

end Laws

/-! ### The deterministic form -/

def Before (a b : Int) : Prop := if 0 ≤ a then b < 0 ∨ a < b else b < a

instance : DecidableRel Before := fun _ _ => inferInstanceAs (Decidable (ite ..))

def InI64 (n : Int) : Prop := i64Min ≤ n ∧ n ≤ i64Max

instance : DecidablePred InI64 := fun _ => inferInstanceAs (Decidable (_ ∧ _))

theorem compare_initial {major info major' info' : Nat} {b b' : Bytes} (hmajor : major' < 8)
    (hinfo : info' < 32) (h : major * 32 + info < major' * 32 + info') :
    compare (initial major info :: b) (initial major' info' :: b') = .lt := by
  have hbyte : (initial major info).toNat = (major * 32 + info) % 256 := UInt8.toNat_ofNat'
  have hbyte' : (initial major' info').toNat = (major' * 32 + info') % 256 := UInt8.toNat_ofNat'
  rw [List.compare_cons_cons, Ordering.then_eq_lt]
  exact .inl (Std.compare_eq_lt.mpr (UInt8.lt_iff_toNat_lt.mpr (by omega)))

theorem compare_head {major n m : Nat} (hmajor : major < 8) (h : n < m) (hm : m < 2 ^ 64) :
    compare (head major n) (head major m) = .lt := by
  obtain ⟨info, width, hhead, hshort⟩ := head_shape major (h.trans hm)
  obtain ⟨info', width', hhead', hshort'⟩ := head_shape major hm
  rw [hhead, hhead']
  have hinfo := hshort'.info_lt
  have hcases : info < info' ∨ info = info' ∧ width = width' ∧ m < 256 ^ width := by
    unfold Shortest at hshort hshort'
    obtain ⟨rfl, rfl, _⟩ | ⟨rfl, rfl, _⟩ | ⟨rfl, rfl, _⟩ | ⟨rfl, rfl, _⟩ | ⟨rfl, rfl, _⟩ := hshort <;> omega
  obtain hless | ⟨rfl, rfl, hwidth⟩ := hcases
  · exact compare_initial hmajor (by omega) (by omega)
  · rw [List.compare_cons_cons, Std.compare_eq_iff_eq.mpr rfl]
    apply compare_of_beNat_lt
    · rw [length_beBytes, length_beBytes]
    · rwa [beNat_beBytes, beNat_beBytes, Nat.mod_eq_of_lt (h.trans hwidth), Nat.mod_eq_of_lt hwidth]

theorem compare_int {a b : Int} (ha : InI64 a) (hb : InI64 b) (h : Before a b) :
    compare (int a) (int b) = .lt := by
  unfold Before at h
  unfold InI64 i64Min i64Max at ha hb
  unfold int
  split_ifs at h ⊢ with h1 h2
  · exact compare_head (by decide) (by omega) (by omega)
  · obtain ⟨_, _, hhead, hshort⟩ := head_shape 0 (show a.toNat < 2 ^ 64 by omega)
    obtain ⟨_, _, hhead', hshort'⟩ := head_shape 1 (show (-1 - b).toNat < 2 ^ 64 by omega)
    have := hshort.info_lt
    have := hshort'.info_lt
    rw [hhead, hhead']
    exact compare_initial (by decide) (by omega) (by omega)
  · omega
  · exact compare_head (by decide) (by omega) (by omega)

theorem readI64_range {input rest : Bytes} {n : Int} (h : readI64 input = some (n, rest)) : InI64 n := by
  unfold readI64 at h
  unfold InI64 i64Min i64Max
  split at h
  · split_ifs at h
    cases h
    omega
  · split at h
    · split_ifs at h
      cases h
      omega
    · cases h

def map (entries : List (Int × Bytes)) : Bytes := mapHead entries.length ++ writeEntries int entries

def array (items : List Bytes) : Bytes := arrayHead items.length ++ items.flatten

inductive Canonical : Nat → Bytes → Prop
  | int {depth : Nat} {n : Int} (h : InI64 n) : Canonical depth (int n)
  | bstr {depth : Nat} (b : Bytes) : Canonical depth (bstr b)
  | tstr {depth : Nat} (s : String) : Canonical depth (tstr s)
  | null {depth : Nat} : Canonical depth null
  | array {depth : Nat} {items : List Bytes} (h : ∀ item ∈ items, Canonical depth item) :
      Canonical (depth + 1) (array items)
  | map {depth : Nat} {entries : List (Int × Bytes)}
      (hlabels : (entries.map Prod.fst).Pairwise Before) (hrange : ∀ l ∈ entries.map Prod.fst, InI64 l)
      (hvalues : ∀ entry ∈ entries, Canonical depth entry.2) : Canonical (depth + 1) (map entries)
  | tag {depth n : Nat} {item : Bytes} (hn : n < 2 ^ 64) (h : Canonical depth item) :
      Canonical (depth + 1) (tagHead n ++ item)

theorem head_length_pos (major n : Nat) : 0 < (head major n).length := by
  unfold head
  split_ifs <;> simp

theorem int_length_pos (n : Int) : 0 < (int n).length := by
  unfold int
  split_ifs <;> exact head_length_pos ..

theorem Canonical.length_pos {depth : Nat} {b : Bytes} (h : Canonical depth b) : 0 < b.length := by
  cases h with
  | int => exact int_length_pos _
  | null => exact Nat.one_pos
  | bstr | tstr | array | map | tag =>
    exact length_append ▸ Nat.add_pos_left (head_length_pos ..) _

theorem length_le_flatten {items : List Bytes} (h : ∀ item ∈ items, 0 < item.length) :
    items.length ≤ items.flatten.length := by
  induction items with
  | nil => exact Nat.le_refl _
  | cons item items ih =>
    have hitem := h item mem_cons_self
    have hrest := ih fun i hi => h i (mem_cons_of_mem _ hi)
    rw [length_cons, flatten_cons, length_append]
    omega

theorem length_le_writeEntries {entries : List (Int × Bytes)}
    (h : ∀ entry ∈ entries, 0 < entry.2.length) :
    entries.length * 2 ≤ (writeEntries int entries).length := by
  induction entries with
  | nil => exact Nat.le_refl _
  | cons entry entries ih =>
    have hvalue := h entry mem_cons_self
    have hlabel := int_length_pos entry.1
    have hrest := ih fun e he => h e (mem_cons_of_mem _ he)
    have hcons : writeEntries int (entry :: entries) =
        (int entry.1 ++ entry.2) ++ writeEntries int entries := rfl
    rw [hcons, length_cons, length_append, length_append]
    omega

theorem length_le_of_mem_entries {entries : List (Int × Bytes)} {entry : Int × Bytes}
    (h : entry ∈ entries) : entry.2.length ≤ (writeEntries int entries).length := by
  have hmem := mem_map_of_mem (f := fun e : Int × Bytes => int e.1 ++ e.2) h
  have hle : (int entry.1 ++ entry.2).length ≤ (writeEntries int entries).length :=
    (sublist_flatten_of_mem hmem).length_le
  rw [length_append] at hle
  omega

end Basil.Cbor
