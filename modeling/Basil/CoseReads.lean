import Basil.CoseDecode

/-!
# The decoder on deterministic input

Each typed read takes exactly what the encoder writes for its value, so a header map is read back
entry by entry.
-/

namespace Basil.Cose

open List hiding map

open Cbor

/-! ### The scan -/

namespace Precheck

variable {n major : Nat}

theorem wideArgument_beBytes {width minimum : Nat} (hmin : minimum ≤ n) (hn : n < 256 ^ width)
    (rest : Bytes) : wideArgument width minimum (beBytes width n ++ rest) = .ok (n, rest) := by
  rw [wideArgument, number_beBytes hn]
  simp only [orErr, ok_bind, ensure_pos hmin]
  rfl

theorem readHead_head (hmajor : major < 7) (hn : n < 2 ^ 64) (rest : Bytes) :
    readHead (head major n ++ rest) = .ok (n, rest) := by
  obtain ⟨_, _, hhead, hshort⟩ := head_shape major hn
  have hinfo := hshort.info_lt
  have hsimple : ¬ major = 7 := by omega
  rw [hhead, cons_append, readHead, majorOf_initial (by omega) (by omega),
    infoOf_initial (by omega)]
  obtain ⟨rfl, rfl, hlt⟩ | ⟨rfl, rfl, hmin, hlt⟩ | ⟨rfl, rfl, hmin, hlt⟩ | ⟨rfl, rfl, hmin, hlt⟩ |
    ⟨rfl, rfl, hmin, hlt⟩ := hshort
  · exact if_pos (by omega)
  all_goals simp only [hsimple, if_false]
  · exact wideArgument_beBytes hmin (show n < 256 ^ 1 by omega) rest
  · exact wideArgument_beBytes hmin (show n < 256 ^ 2 by omega) rest
  · exact wideArgument_beBytes hmin (show n < 256 ^ 4 by omega) rest
  · exact wideArgument_beBytes hmin (show n < 256 ^ 8 by omega) rest

theorem scanItem_head (hmajor : major < 7) (hn : n < 2 ^ 64) (levels : Nat) (rest : Bytes) :
    scanItem (levels + 1) (head major n ++ rest) = scanContent (scanItem levels) major n rest := by
  have hread := readHead_head hmajor hn rest
  obtain ⟨_, _, hhead, hshort⟩ := head_shape major hn
  have hinfo := hshort.info_lt
  rw [hhead, cons_append] at hread ⊢
  rw [scanItem, hread, infoOf_initial (by omega), majorOf_initial (by omega) (by omega),
    ensure_pos (by omega)]
  rfl

theorem scanMany_flatten {item : Bytes → Except DecodeError Bytes} {items : List Bytes} {rest : Bytes}
    (h : ∀ b ∈ items, ∀ rest, item (b ++ rest) = .ok rest) :
    scanMany item items.length (items.flatten ++ rest) = .ok rest := by
  induction items with
  | nil => rfl
  | cons b items ih =>
    rw [flatten_cons, append_assoc, length_cons, scanMany, h b mem_cons_self, ok_bind]
    exact ih fun c hc => h c (mem_cons_of_mem _ hc)

theorem scanMany_writeEntries {item : Bytes → Except DecodeError Bytes}
    {entries : List (Int × Bytes)} {rest : Bytes}
    (hlabels : ∀ entry ∈ entries, ∀ rest, item (int entry.1 ++ rest) = .ok rest)
    (hvalues : ∀ entry ∈ entries, ∀ rest, item (entry.2 ++ rest) = .ok rest) :
    scanMany item (entries.length * 2) (writeEntries int entries ++ rest) = .ok rest := by
  induction entries with
  | nil => rfl
  | cons entry entries ih =>
    have hcount : (entry :: entries).length * 2 = entries.length * 2 + 1 + 1 := by
      rw [length_cons]
      omega
    have hbytes : writeEntries int (entry :: entries) ++ rest =
        int entry.1 ++ (entry.2 ++ (writeEntries int entries ++ rest)) := by
      show (int entry.1 ++ entry.2) ++ writeEntries int entries ++ rest = _
      simp
    rw [hcount, hbytes, scanMany, hlabels entry mem_cons_self, ok_bind, scanMany,
      hvalues entry mem_cons_self, ok_bind]
    exact ih (fun e he => hlabels e (mem_cons_of_mem _ he))
      (fun e he => hvalues e (mem_cons_of_mem _ he))

theorem scanItem_int {n : Int} (h : InI64 n) (levels : Nat) (rest : Bytes) :
    scanItem (levels + 1) (int n ++ rest) = .ok rest := by
  obtain ⟨hmin, hmax⟩ := h
  unfold i64Min at hmin
  unfold i64Max at hmax
  unfold int
  split_ifs
  · rw [scanItem_head (by omega) (by omega)]
    rfl
  · rw [scanItem_head (by omega) (by omega)]
    rfl

theorem scanItem_string (hmajor : major = 2 ∨ major = 3) {b : Bytes} (hfits : b.length < 2 ^ 64)
    (levels : Nat) (rest : Bytes) :
    scanItem (levels + 1) (head major b.length ++ b ++ rest) = .ok rest := by
  have hle : b.length ≤ (b ++ rest).length := by simp
  rw [append_assoc, scanItem_head (by omega) hfits]
  obtain rfl | rfl := hmajor
  · simp only [scanContent, ensure_pos hle, ok_bind, drop_left]
    rfl
  · simp only [scanContent, ensure_pos hle, ok_bind, drop_left]
    rfl

theorem scanItem_canonical {depth : Nat} {b : Bytes} (h : Canonical depth b) (hfits : b.length < 2 ^ 64)
    {levels : Nat} (hlevels : depth < levels) (rest : Bytes) :
    scanItem levels (b ++ rest) = .ok rest := by
  induction h generalizing levels rest with
  | int hn =>
    obtain ⟨levels, rfl⟩ := Nat.exists_eq_add_of_lt hlevels
    exact scanItem_int hn _ rest
  | null =>
    obtain ⟨levels, rfl⟩ := Nat.exists_eq_add_of_lt hlevels
    rfl
  | bstr =>
    obtain ⟨levels, rfl⟩ := Nat.exists_eq_add_of_lt hlevels
    rw [bstr, length_append] at hfits
    exact scanItem_string (.inl rfl) (by omega) _ rest
  | tstr =>
    obtain ⟨levels, rfl⟩ := Nat.exists_eq_add_of_lt hlevels
    rw [tstr, length_append] at hfits
    exact scanItem_string (.inr rfl) (by omega) _ rest
  | @array depth items hitems ih =>
    obtain ⟨levels, rfl⟩ := Nat.exists_eq_succ_of_ne_zero (Nat.ne_of_gt (Nat.zero_lt_of_lt hlevels))
    rw [array, length_append] at hfits
    have hcount := length_le_flatten fun item hitem => (hitems item hitem).length_pos
    rw [array, append_assoc, arrayHead, scanItem_head (by omega) (by omega)]
    refine scanMany_flatten fun item hitem rest => ?_
    have hlength := (sublist_flatten_of_mem hitem).length_le
    exact ih item hitem (by omega) (by omega) rest
  | @map depth entries hlabels hrange hvalues ih =>
    obtain ⟨levels, rfl⟩ := Nat.exists_eq_succ_of_ne_zero (Nat.ne_of_gt (Nat.zero_lt_of_lt hlevels))
    rw [map, length_append] at hfits
    have hcount := length_le_writeEntries fun entry hentry => (hvalues entry hentry).length_pos
    have hpairs : entries.length * 2 ≤ u64Max := by
      unfold u64Max
      omega
    rw [map, append_assoc, mapHead, scanItem_head (by omega) (by omega), scanContent,
      ensure_pos hpairs, ok_bind]
    -- the values are one level deeper, and so are the labels
    obtain ⟨inner, rfl⟩ : ∃ inner, levels = inner + 1 :=
      Nat.exists_eq_succ_of_ne_zero (by omega)
    refine scanMany_writeEntries (fun entry hentry rest => ?_) fun entry hentry rest => ?_
    · exact scanItem_int (hrange _ (mem_map_of_mem hentry)) inner rest
    · have hlength := length_le_of_mem_entries hentry
      exact ih entry hentry (by omega) (by omega) rest
  | @tag depth n item hn hitem ih =>
    obtain ⟨levels, rfl⟩ := Nat.exists_eq_succ_of_ne_zero (Nat.ne_of_gt (Nat.zero_lt_of_lt hlevels))
    rw [length_append] at hfits
    rw [append_assoc, tagHead, scanItem_head (by omega) hn]
    exact ih (by omega) (by omega) rest

theorem scan_canonical {depth : Nat} {body : Bytes} (hmajor : major < 7) (hn : n < 2 ^ 64)
    (h : Canonical depth (head major n ++ body)) (hdepth : depth ≤ maxDepth)
    (hfits : (head major n ++ body).length < 2 ^ 64) :
    scan (head major n ++ body) = .ok (if major = 6 then some n else none) := by
  have hitem := scanItem_canonical h hfits (Nat.lt_succ_of_le hdepth) []
  rw [append_nil] at hitem
  have hread := readHead_head hmajor hn body
  obtain ⟨info, _, hhead, hshort⟩ := head_shape major hn
  have hinfo := hshort.info_lt
  have hfirst : (head major n ++ body).head? = some (initial major info) := by
    rw [hhead]
    rfl
  rw [scan, hfirst]
  simp only [orErr, ok_bind, majorOf_initial (show major < 8 by omega) (show info < 32 by omega)]
  split_ifs
  · rw [hread]
    simp [hitem]
  · simp [hitem]

end Precheck

/-! ### Typed reads -/

variable {α : Type} {w b : Bytes} {a : α} {n : Nat}

theorem reads_prim {read : Bytes → Option (α × Bytes)}
    (h : ∀ rest, read (w ++ rest) = some (a, rest)) : Reads (prim read) w a := by
  intro rest
  rw [prim, Proc.exec_ofFun, h]

theorem reads_typed {check : Kind → Except DecodeError Unit} {read : Bytes → Option (α × Bytes)}
    {kind : Kind} (hkind : ∀ rest, datatype (w ++ rest) = some kind) (hcheck : check kind = .ok ())
    (hread : ∀ rest, read (w ++ rest) = some (a, rest)) : Reads (typed check read) w a := by
  intro rest
  have hdt : dt.exec (w ++ rest) = (.ok kind, w ++ rest) := by
    rw [dt, Proc.exec_ofFun, hkind]
    rfl
  rw [typed, Proc.exec_bind_of_ok hdt, hcheck, Proc.exec_bind_of_ok (Proc.exec_check _ _)]
  exact reads_prim hread rest

theorem lt_of_bstr (h : (bstr b).length < 2 ^ 64) : b.length < 2 ^ 64 := by
  rw [bstr, length_append] at h
  omega

theorem lt_of_tstr {s : String} (h : (tstr s).length < 2 ^ 64) : (textBytes s).length < 2 ^ 64 := by
  rw [tstr, length_append] at h
  omega

theorem reads_label {l : Int} (h : InI64 l) : Reads readLabel (int l) l :=
  reads_typed (fun rest => datatype_int rest h.1 h.2) rfl fun rest => readI64_int rest h.1 h.2

theorem reads_int {n : Int} (h : InI64 n) (l : Int) : Reads (readInt l) (int n) n :=
  reads_typed (fun rest => datatype_int rest h.1 h.2) rfl fun rest => readI64_int rest h.1 h.2

theorem reads_time {n : Int} (h : InI64 n) (l : Int) : Reads (readTime l) (int n) n :=
  reads_typed (fun rest => datatype_int rest h.1 h.2) rfl fun rest => readI64_int rest h.1 h.2

theorem reads_bytes (h : (bstr b).length < 2 ^ 64) (l : Int) : Reads (readBytes l) (bstr b) b :=
  reads_typed (fun rest => datatype_bstr rest (lt_of_bstr h)) rfl
    fun rest => readBstr_bstr rest (lt_of_bstr h)

theorem reads_part (h : (bstr b).length < 2 ^ 64) : Reads readPart (bstr b) b :=
  reads_typed (fun rest => datatype_bstr rest (lt_of_bstr h)) rfl
    fun rest => readBstr_bstr rest (lt_of_bstr h)

theorem reads_payload (h : (bstr b).length < 2 ^ 64) : Reads readPayload (bstr b) b :=
  reads_typed (fun rest => datatype_bstr rest (lt_of_bstr h)) rfl
    fun rest => readBstr_bstr rest (lt_of_bstr h)

theorem reads_str {s : String} (h : (tstr s).length < 2 ^ 64) (l : Int) :
    Reads (readStr l) (tstr s) s :=
  reads_typed (fun rest => datatype_tstr rest (lt_of_tstr h)) rfl
    fun rest => readTstr_tstr rest (lt_of_tstr h)

theorem reads_mapLen (h : n < 2 ^ 64) : Reads readMapLen (mapHead n) n := by
  have hlength : Reads (typed (fun t => ensure (t = .map) .malformed) (readLength 5)) (mapHead n)
      (some n) :=
    reads_typed (fun rest => datatype_head rest (by omega) h) rfl
      fun rest => readLength_head rest (by omega) h
  have hall := Reads.bind (f := fun n => Proc.check (orErr n .indefiniteLength)) hlength
    (reads_check rfl)
  rwa [append_nil] at hall

theorem reads_arrayLen (h : n < 2 ^ 64) : Reads readArrayLen (arrayHead n) n := by
  have hlength : Reads (typed (fun t => ensure (t = .array) .malformed) (readLength 4)) (arrayHead n)
      (some n) :=
    reads_typed (fun rest => datatype_head rest (by omega) h) rfl
      fun rest => readLength_head rest (by omega) h
  have hall := Reads.bind (f := fun n => Proc.check (orErr n .indefiniteLength)) hlength
    (reads_check rfl)
  rwa [append_nil] at hall

theorem reads_validated {β σ : Type} {p : Decoder α} {b : β} {f : α → Except ProfileError β}
    {g : β → σ} (hp : Reads p w a) (hnew : f a = .ok b) :
    Reads (p >>= fun a => validated (f a) >>= fun b => pure (g b)) w (g b) := by
  have hcheck : Reads (validated (f a)) [] b := reads_check (by rw [hnew]; rfl)
  have hall := Reads.bind (f := fun a => validated (f a) >>= fun b => pure (g b)) hp
    (hcheck.map g)
  rwa [append_nil] at hall

theorem reads_fixed (x : FixedBytes n) (h : (bstr x.bytes).length < 2 ^ 64) (l : Int) :
    Reads (readFixed n l) (bstr x.bytes) x := by
  have hx : orErr (FixedBytes.ofBytes? n x.bytes) (.invalidLength l n x.bytes.length) =
      (.ok x : Except DecodeError _) := by
    rw [FixedBytes.ofBytes?_bytes]
    rfl
  have hall := Reads.bind (f := fun raw => Proc.check (orErr (FixedBytes.ofBytes? n raw)
    (.invalidLength l n raw.length))) (reads_bytes h l) (reads_check hx)
  rwa [append_nil] at hall

/-! ### Lists -/

theorem length_le_flatMap_of_pos {write : α → Bytes} (hpos : ∀ a, 0 < (write a).length)
    (as : List α) : as.length ≤ (as.flatMap write).length := by
  have hitems : ∀ b ∈ as.map write, 0 < b.length := by
    intro b hb
    obtain ⟨a, -, rfl⟩ := mem_map.mp hb
    exact hpos a
  have hle := length_le_flatten hitems
  rwa [length_map] at hle

theorem reads_stringArray {texts : List String} (h : (writeTexts texts).length < 2 ^ 64) (l : Int) :
    Reads (readStringArray l) (writeTexts texts) texts := by
  have hpos (s : String) : 0 < (tstr s).length := by
    have hitem : Canonical 0 (tstr s) := .tstr s
    exact hitem.length_pos
  have hcount := length_le_flatMap_of_pos hpos texts
  rw [writeTexts, length_append] at h
  refine Reads.bind (reads_arrayLen (by omega)) (reads_many fun s hs => ?_)
  have hle : (tstr s).length ≤ (texts.flatMap tstr).length :=
    (sublist_flatten_of_mem (mem_map_of_mem hs)).length_le
  exact reads_str (by omega) l

theorem reads_crit {labels : List Int} (hne : labels ≠ []) (hrange : ∀ l ∈ labels, InI64 l)
    (h : (writeLabels labels).length < 2 ^ 64) : Reads parseCrit (writeLabels labels) labels := by
  have hcount := length_le_flatMap_of_pos int_length_pos labels
  rw [writeLabels, length_append] at h
  refine Reads.bind (reads_arrayLen (by omega)) ?_
  have hsome : labels.length ≠ 0 := fun hzero => hne (eq_nil_of_length_eq_zero hzero)
  exact Reads.check_bind (ensure_pos hsome _) (reads_many fun l hl => reads_label (hrange l hl))

/-! ### Maps -/

theorem canonicalSortKeyWord_eq (l : Int64) :
    ((canonicalSortKeyWord l).1.toNat, (canonicalSortKeyWord l).2.toNat) = canonicalSortKey l.toInt := by
  have hint : l.toInt = _ := l.toBitVec.toInt_eq_toNat_cond
  have hword : l.toBitVec.toNat = l.toUInt64.toNat := rfl
  have hlt := l.toUInt64.toNat_lt
  rw [hword] at hint
  rw [canonicalSortKeyWord, canonicalSortKey]
  by_cases h : 0 ≤ l
  · have hle : 0 ≤ l.toInt := Int64.le_iff_toInt_le.mp h
    rw [if_pos h, if_pos hle]
    split at hint
    · simp [hint]
    · omega
  · have hle : ¬ 0 ≤ l.toInt := fun hle => h (Int64.le_iff_toInt_le.mpr hle)
    rw [if_neg h, if_neg hle]
    split at hint
    · omega
    · simp only [UInt64.toNat_not, Prod.mk.injEq]
      refine ⟨rfl, ?_⟩
      unfold UInt64.size
      omega

theorem compareKeys_before {p l : Int} (h : Before p l) :
    compareKeys (canonicalSortKey p) (canonicalSortKey l) = .lt := by
  unfold Before at h
  unfold compareKeys canonicalSortKey
  split_ifs at h ⊢ with hp hl
  · have hlt : p.toNat < l.toNat := by omega
    simp [Nat.compare_eq_lt.mpr hlt]
  · rfl
  · omega
  · have hlt : (-1 - p).toNat < (-1 - l).toNat := by omega
    simp [Nat.compare_eq_lt.mpr hlt]

theorem compareKeys_swap (a b : Nat × Nat) : (compareKeys a b).swap = compareKeys b a := by
  simp [compareKeys, Ordering.swap_then, Nat.compare_swap]

theorem compareKeys_eq_compare_int {a b : Int} (ha : InI64 a) (hb : InI64 b) :
    compareKeys (canonicalSortKey a) (canonicalSortKey b) = compare (int a) (int b) := by
  by_cases hab : Before a b
  · rw [compareKeys_before hab, compare_int ha hb hab]
  · by_cases hba : Before b a
    · rw [← compareKeys_swap, compareKeys_before hba, Std.OrientedCmp.gt_of_lt (compare_int hb ha hba)]
      rfl
    · obtain rfl : a = b := by
        unfold Before at hab hba
        split_ifs at hab hba <;> omega
      simp [compareKeys]

theorem sort_key_orders_encodings :
    (∀ l : Int64, ((canonicalSortKeyWord l).1.toNat, (canonicalSortKeyWord l).2.toNat) =
      canonicalSortKey l.toInt) ∧
    ∀ a b : Int64,
      compareKeys (canonicalSortKey a.toInt) (canonicalSortKey b.toInt) =
        compare (int a.toInt) (int b.toInt) ∧
      (checkOrder (some a.toInt) b.toInt = .ok () ↔ compare (int a.toInt) (int b.toInt) = .lt) := by
  refine ⟨canonicalSortKeyWord_eq, fun a b => ?_⟩
  have hrange (l : Int64) : InI64 l.toInt := ⟨l.le_toInt, Int.le_sub_one_of_lt l.toInt_lt⟩
  have hcompare := compareKeys_eq_compare_int (hrange a) (hrange b)
  refine ⟨hcompare, ?_⟩
  rw [checkOrder, hcompare]
  cases compare (int a.toInt) (int b.toInt) <;> simp

theorem checkOrder_before {p l : Int} (h : Before p l) : checkOrder (some p) l = .ok () := by
  rw [checkOrder, compareKeys_before h]

theorem follows_of_pairwise {labels : List Int} (h : labels.Pairwise Before) :
    Follows checkOrder none labels := by
  have hfrom : ∀ {labels : List Int} {prev : Option Int}, labels.Pairwise Before →
      (∀ p ∈ prev, ∀ l ∈ labels, Before p l) → Follows checkOrder prev labels := by
    intro labels
    induction labels with
    | nil => exact fun _ _ => trivial
    | cons l labels ih =>
      intro prev hpair hprev
      obtain ⟨hhead, htail⟩ := pairwise_cons.mp hpair
      refine ⟨?_, ih htail fun p hp k hk => ?_⟩
      · cases prev with
        | none => rfl
        | some p => exact checkOrder_before (hprev p rfl l mem_cons_self)
      · obtain rfl := Option.mem_some_iff.mp hp
        exact hhead k hk
  exact hfrom h nofun

theorem reads_map {σ : Type} {field : Int → σ → Decoder σ} {entries : List (Int × Bytes)}
    (hlabels : (entries.map Prod.fst).Pairwise Before) (hrange : ∀ l ∈ entries.map Prod.fst, InI64 l)
    {init out : σ} (h : Fills field entries init out) :
    Reads (readMap field entries.length init) (writeEntries int entries) out :=
  reads_entries (fun l hl => reads_label (hrange l hl)) (follows_of_pairwise hlabels) h

end Basil.Cose
