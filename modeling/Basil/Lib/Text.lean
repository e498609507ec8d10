import Mathlib.Algebra.Group.Nat.Defs
import Mathlib.Data.List.Basic

/-!
# Text

Splitting and matching of strings, through their characters.
-/

namespace Basil.Text

open List

def splitOnceChars (sep : Char) : List Char → Option (List Char × List Char)
  | [] => none
  | c :: cs =>
      if c = sep then some ([], cs)
      else (splitOnceChars sep cs).map fun p => (c :: p.1, p.2)

def splitOnce (sep : Char) (s : String) : Option (String × String) :=
  (splitOnceChars sep s.toList).map fun p => (String.ofList p.1, String.ofList p.2)

def split (sep : Char) (s : String) : List String :=
  (s.toList.splitOn sep).map String.ofList

def stripLead (lead s : String) : Option String :=
  (lead.toList.isPrefixOf? s.toList).map String.ofList

def isWhitespace (c : Char) : Bool :=
  c.val ∈ [9, 10, 11, 12, 13, 32, 133, 160, 5760, 8192, 8193, 8194, 8195, 8196, 8197, 8198, 8199,
    8200, 8201, 8202, 8232, 8233, 8239, 8287, 12288]

def isControl (c : Char) : Bool := c.toNat < 32 || (127 ≤ c.toNat && c.toNat ≤ 159)

def trim (s : String) : String :=
  String.ofList ((((s.toList.dropWhile isWhitespace).reverse.dropWhile isWhitespace)).reverse)

def afterLast (sep : Char) (s : String) : String :=
  String.ofList (s.toList.reverse.takeWhile (· ≠ sep)).reverse

/-- `str::lines`: a final line end opens no line, and a carriage return before a line
end belongs to it. -/
def lines (s : String) : List String :=
  let parts := s.toList.splitOn '\n'
  let ended := parts.dropLast.map fun cs => if cs.getLast? = some '\r' then cs.dropLast else cs
  let rest := parts.getLast?.toList.filter (· ≠ [])
  (ended ++ rest).map String.ofList

def rsplitOnceChars (sep : List Char) : List Char → Option (List Char × List Char)
  | [] => none
  | c :: cs =>
      match rsplitOnceChars sep cs with
      | some (a, b) => some (c :: a, b)
      | none => (sep.isPrefixOf? (c :: cs)).map fun rest => ([], rest)

def rsplitOnce (sep s : String) : Option (String × String) :=
  (rsplitOnceChars sep.toList s.toList).map fun p => (String.ofList p.1, String.ofList p.2)

def parseDecimal (s : String) : Option Nat :=
  if s.toList ≠ [] ∧ s.toList.all Char.isDigit = true then some (Nat.ofDigitChars 10 s.toList 0)
  else none

def parsesI128 (s : String) : Bool :=
  match stripLead "-" s with
  | some digits => (parseDecimal digits).any (· ≤ 2 ^ 127)
  | none => (parseDecimal ((stripLead "+" s).getD s)).any (· < 2 ^ 127)

def stripTail (tail s : String) : Option String :=
  (tail.toList.reverse.isPrefixOf? s.toList.reverse).map fun rest => String.ofList rest.reverse

def trimEndMatches (c : Char) (s : String) : String :=
  String.ofList (s.toList.reverse.dropWhile (· == c)).reverse

variable {sep c : Char} {a b s : String} {cs : List Char}

theorem afterLast_append (h : sep ∉ b.toList) :
    afterLast sep (a ++ String.ofList [sep] ++ b) = b := by
  have hall : ∀ c ∈ b.toList.reverse, decide (c ≠ sep) = true := by
    intro c hc
    rw [mem_reverse] at hc
    have hne : c ≠ sep := by
      rintro rfl
      exact h hc
    exact decide_eq_true hne
  have htake : ((a ++ String.ofList [sep] ++ b).toList.reverse.takeWhile (· ≠ sep)) =
      b.toList.reverse := by
    simp only [String.toList_append, String.toList_ofList, reverse_append]
    rw [takeWhile_append_of_pos hall]
    simp
  rw [afterLast, htake, reverse_reverse, String.ofList_toList]

theorem parseDecimal_toString (n : Nat) : parseDecimal (toString n) = some n := by
  have hdigits : (toString n).toList = Nat.toDigits 10 n := by
    rw [Nat.toString_eq_ofList_toDigits, String.toList_ofList]
  have hall : (Nat.toDigits 10 n).all Char.isDigit = true := by
    rw [all_eq_true]
    intro c hc
    exact Nat.isDigit_of_mem_toDigits (by decide) (by decide) hc
  unfold parseDecimal
  rw [hdigits, if_pos ⟨Nat.toDigits_ne_nil, hall⟩, Nat.ofDigitChars_ten_toDigits]

theorem not_mem_toString (hc : c.isDigit = false) (n : Nat) : c ∉ (toString n).toList := by
  rw [Nat.toString_eq_ofList_toDigits, String.toList_ofList]
  intro hmem
  have hdigit := Nat.isDigit_of_mem_toDigits (by decide) (by decide) hmem
  rw [hc] at hdigit
  cases hdigit

theorem splitOnceChars_eq_some {a b : List Char} :
    splitOnceChars sep cs = some (a, b) ↔ cs = a ++ sep :: b ∧ sep ∉ a := by
  induction cs generalizing a with
  | nil => simp [splitOnceChars]
  | cons c cs ih =>
    unfold splitOnceChars
    by_cases h : c = sep
    · subst h
      cases a with
      | nil => simp [eq_comm]
      | cons x a => simp; rintro rfl; simp
    · cases a with
      | nil => simp [h]
      | cons x a =>
        simp only [if_neg h, Option.map_eq_some_iff, Prod.exists, Prod.mk.injEq, cons.injEq,
          cons_append, mem_cons, not_or]
        constructor
        · rintro ⟨_, _, hrest, ⟨rfl, rfl⟩, rfl⟩
          obtain ⟨rfl, hmem⟩ := ih.mp hrest
          exact ⟨⟨rfl, rfl⟩, Ne.symm h, hmem⟩
        · rintro ⟨⟨rfl, rfl⟩, -, hmem⟩
          exact ⟨a, b, ih.mpr ⟨rfl, hmem⟩, ⟨rfl, rfl⟩, rfl⟩

theorem splitOnce_append (h : sep ∉ a.toList) :
    splitOnce sep (a ++ String.ofList [sep] ++ b) = some (a, b) := by
  have hchars : splitOnceChars sep (a ++ String.ofList [sep] ++ b).toList =
      some (a.toList, b.toList) := splitOnceChars_eq_some.mpr ⟨by simp, h⟩
  rw [splitOnce, hchars]
  simp

theorem splitOnce_eq_some (h : splitOnce sep s = some (a, b)) :
    s.toList = a.toList ++ sep :: b.toList ∧ sep ∉ a.toList := by
  simp only [splitOnce, Option.map_eq_some_iff, Prod.exists, Prod.mk.injEq] at h
  obtain ⟨_, _, hxy, rfl, rfl⟩ := h
  simpa using splitOnceChars_eq_some.mp hxy

theorem stripLead_eq_some {lead rest : String} :
    stripLead lead s = some rest ↔ s = lead ++ rest := by
  simp only [stripLead, Option.map_eq_some_iff, isPrefixOf?_eq_some_iff_append_eq]
  constructor
  · rintro ⟨_, hcs, rfl⟩
    rw [← String.toList_inj]
    simpa using hcs.symm
  · rintro rfl
    exact ⟨rest.toList, by simp, by simp⟩

theorem stripLead_append (lead s : String) : stripLead lead (lead ++ s) = some s :=
  stripLead_eq_some.mpr rfl

/-- `str::parse` of an unsigned integer type: a leading `+` is accepted. -/
def parseUnsigned (max : Nat) (s : String) : Option Nat :=
  (parseDecimal ((stripLead "+" s).getD s)).filter (· ≤ max)

theorem parseUnsigned_toString (max n : Nat) :
    parseUnsigned max (toString n) = if n ≤ max then some n else none := by
  have hsign : stripLead "+" (toString n) = none := by
    rw [Option.eq_none_iff_forall_not_mem]
    intro rest hrest
    have htext : toString n = "+" ++ rest := stripLead_eq_some.mp hrest
    apply not_mem_toString (c := '+') (by decide) n
    rw [htext]
    simp
  rw [parseUnsigned, hsign, Option.getD_none, parseDecimal_toString, Option.filter_some]
  simp only [decide_eq_true_eq]

theorem dropWhile_mem {p : Char → Bool} (hmem : c ∈ cs) (hc : p c = false) :
    c ∈ cs.dropWhile p := by
  induction cs with
  | nil => cases hmem
  | cons d cs ih =>
    by_cases hd : p d = true
    · rw [dropWhile_cons_of_pos hd]
      rcases mem_cons.mp hmem with rfl | hrest
      · rw [hc] at hd
        cases hd
      · exact ih hrest
    · rwa [dropWhile_cons_of_neg hd]

theorem trim_ne_empty (hmem : c ∈ s.toList) (hc : isWhitespace c = false) : trim s ≠ "" := by
  intro h
  have hleft := dropWhile_mem hmem hc
  have hright := dropWhile_mem (mem_reverse.mpr hleft) hc
  have hlist : (trim s).toList = [] := by rw [h]; rfl
  simp only [trim, String.toList_ofList, reverse_eq_nil_iff] at hlist
  rw [hlist] at hright
  cases hright

theorem split_three {c : String} (ha : sep ∉ a.toList) (hb : sep ∉ b.toList) (hc : sep ∉ c.toList) :
    split sep (a ++ String.ofList [sep] ++ b ++ String.ofList [sep] ++ c) = [a, b, c] := by
  have hjoin : (a ++ String.ofList [sep] ++ b ++ String.ofList [sep] ++ c).toList =
      [sep].intercalate [a.toList, b.toList, c.toList] := by
    simp [intercalate]
  have hfree : ∀ l ∈ [a.toList, b.toList, c.toList], sep ∉ l := by
    simp [ha, hb, hc]
  rw [split, hjoin, splitOn_intercalate sep hfree (by simp)]
  simp

theorem intercalate_split (sep : Char) (s : String) :
    (String.singleton sep).intercalate (split sep s) = s := by
  rw [← String.toList_inj, String.toList_intercalate, split, map_map]
  simp [Function.comp_def, intercalate_splitOn]

theorem mem_of_mem_intercalate {segs : List (List Char)} (h : c ∈ [sep].intercalate segs)
    (hne : c ≠ sep) : ∃ seg ∈ segs, c ∈ seg := by
  induction segs with
  | nil => simp [intercalate] at h
  | cons seg segs ih =>
    cases segs with
    | nil =>
      refine ⟨seg, mem_cons_self, ?_⟩
      simpa [intercalate] using h
    | cons next rest =>
      have hsplit : [sep].intercalate (seg :: next :: rest) =
          seg ++ sep :: [sep].intercalate (next :: rest) := by
        simp [intercalate]
      rw [hsplit, mem_append, mem_cons] at h
      rcases h with hseg | heq | hrest
      · exact ⟨seg, mem_cons_self, hseg⟩
      · exact absurd heq hne
      · obtain ⟨found, hfound, hc⟩ := ih hrest
        exact ⟨found, mem_cons_of_mem _ hfound, hc⟩

end Basil.Text
